import Concord.Http.Exchange
import Concord.Json.Parser
import Concord.Source.Mirror

/-!
# Reading the mirror over HTTP

The mirror keeps the record of an entity under a path of its own.  The status of
the response says what is known of it:

* *not found* means that the entity is not indexed yet;
* a failure of the server means that the mirror cannot answer now, and so does a
  mirror that cannot be reached or does not answer in time;
* a success comes with the record as JSON;
* every other status is a failure.

The key and the fees are members of the record.  A member that is absent or `null`
means that there is no key, or that there are no fees.
-/

namespace Concord

open Text

/-- A mirror that is reached over HTTP. -/
structure RestMirror where
  /-- The address below which records are found. -/
  base : Url.Address
  deriving DecidableEq

namespace RestMirror

/-! ## Addresses -/

def recordsPath : String := "api/v1/"

/-- The mirror at an address as people write it. -/
def ofText (address : String) : Except Url.UrlError RestMirror :=
  (Url.Address.read (Url.completed address)).map fun a => ⟨a.asFolder⟩

theorem ofText_eq_ok_iff {address : String} {m : RestMirror} :
    ofText address = .ok m ↔
      ∃ a, Url.Address.read (Url.completed address) = .ok a ∧ m = ⟨a.asFolder⟩ := by
  unfold ofText
  cases Url.Address.read (Url.completed address) with
  | ok a => simp [Except.map, eq_comm]
  | error e => simp [Except.map]

/-- What is said of a text that is not the address of a mirror. -/
def invalidText (address : String) : String :=
  "Invalid mirror URL '" ++ Url.completed address ++ "'"

/-- The address of the record of an entity. -/
def addressOf (m : RestMirror) (e : Entity) : Url.Address :=
  (m.base.resolve recordsPath).resolve e.mirrorPath

/-! ## Records -/

/-- What is said of a mirror that gave no response. -/
def unreachedText (url : String) (outcome : String) : String :=
  "error sending request for url (" ++ url ++ "): " ++ outcome

/-- What the journal says of a mirror that gave no response. -/
def unreachedRecord (url reason : String) : Record :=
  ⟨.warn, "Mirror unreachable at " ++ url ++ ": " ++ reason⟩

/-- The mirror gave no response. -/
def unreached (url outcome : String) : MirrorRecord Json × List Record :=
  let reason := unreachedText url outcome
  (.unavailable reason, [unreachedRecord url reason])

/-- What is said of a status that is neither a success nor *not found*. -/
def statusText (url : String) (s : Http.Status) : String :=
  "Mirror returned HTTP " ++ s.display ++ " for " ++ url

/-- The record in the body of a success. -/
def ofBody (url : String) : Http.Body → Except Failure (MirrorRecord Json)
  | .complete text =>
    match Json.parse Json.usualDepth text with
    | some v => .ok (.found v)
    | none => .error (.within (invalidBody url) (.exchange .bodyNotJson))
  | .timedOut => .error (.within (invalidBody url) (.exchange .bodyTimeout))
  | .broken => .error (.within (invalidBody url) (.exchange .bodyBroken))
where
  /-- What is said of a body that cannot be used. -/
  invalidBody (url : String) : String := "Invalid mirror response from " ++ url

/-- The record in a response, with what the journal says of it. -/
def ofResponse (url : String) (e : Entity) (s : Http.Status) (body : Http.Body) :
    Except Failure (MirrorRecord Json) × List Record :=
  if s = Http.Status.notFound then
    (.ok .notIndexed, [⟨.debug, e.display ++ " not indexed yet"⟩])
  else if s.isServerError then
    (.ok (.unavailable ("HTTP " ++ s.display)), [⟨.warn, statusText url s⟩])
  else if s.isSuccess then (ofBody url body, [])
  else (.error (.plain (statusText url s)), [])

/-- The record in the outcome of an exchange, with what the journal says of it. -/
def ofOutcome (url : String) (e : Entity) :
    Http.Outcome → Except Failure (MirrorRecord Json) × List Record
  | .refused => let r := unreached url "error trying to connect"; (.ok r.1, r.2)
  | .timedOut => let r := unreached url "operation timed out"; (.ok r.1, r.2)
  | .dropped =>
    (.error (.within ("Mirror request to " ++ url ++ " failed") (.exchange .request)), [])
  | .answered s body => ofResponse url e s body

def keyIn (e : Entity) (record : Json) : Except Failure (Option ObservedKey) :=
  match record.get? e.kind.mirrorKeyMember with
  | none => .ok none
  | some .null => .ok none
  | some v =>
    match ObservedKey.ofJson v with
    | .ok k => .ok (some k)
    | .error err =>
      .error (.within ("Invalid " ++ e.kind.mirrorKeyMember ++ " of " ++ e.display) (.shape err))

def feesIn (e : Entity) (record : Json) : Except Failure MirrorFees :=
  match record.get? "custom_fees" with
  | none => .ok .empty
  | some .null => .ok .empty
  | some v =>
    (MirrorFees.ofJson v).mapError
      fun err => .within ("Invalid custom_fees of " ++ e.display) (.shape err)

/-- The record with a part in the place of the whole. -/
def partIn {α : Type} (part : Json → Except Failure α) :
    MirrorRecord Json → Except Failure (MirrorRecord α)
  | .found v => (part v).map .found
  | .notIndexed => .ok .notIndexed
  | .unavailable reason => .ok (.unavailable reason)

/-! ## The reader -/

variable {σ : Type}

def ask (m : RestMirror) (l : Http.Link σ) (e : Entity) : Act σ Failure (MirrorRecord Json) := do
  let address := m.addressOf e
  Act.note .debug ("GET " ++ address.display)
  let outcome ← l.send (.get address)
  let r := ofOutcome address.display e outcome
  Act.noteAll r.2
  Act.ofExcept r.1

/-- The way to read a mirror over HTTP. -/
def reader (m : RestMirror) (l : Http.Link σ) : MirrorReader σ where
  key e := do
    let r ← m.ask l e
    Act.ofExcept (partIn (keyIn e) r)
  fees token := do
    let e := Entity.token token
    let r ← m.ask l e
    Act.ofExcept (partIn (feesIn e) r)

end RestMirror

end Concord
