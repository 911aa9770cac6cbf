import Concord.Proofs.Simulated.History
import Mathlib.Logic.Function.Basic

/-!
# What is read of a simulated node

A node is written to and is called, by a client and by others, under any session.  What the
client then reads is what was written last: of an entity its key, of a token its fees.

* `Deed` is what is done with a node and a client of it, and `writes` leaves out the calls of
  the client.
* A deed that is a call writes nothing (`Written.deed`), so the node has what the writes of the
  whole history say (`exists_arrives`).
* `Reads` says what a client reads of all entities and tokens.  A node whose describing methods
  are enabled is read as it was written (`Written.reads`).
-/

namespace Concord

open Json Rpc

namespace Node

/-! ## Deeds -/

/-- What is done with a node and a client of it. -/
inductive Deed where
  /-- The node is told something, or gets the request of another client. -/
  | event (event : Event)
  /-- The client calls a method, and does with the outcome what it likes. -/
  | call (ctx : Context) (method : String) (params : Json)
  deriving DecidableEq

def Deed.event? : Deed → Option Event
  | .event e => some e
  | .call _ _ _ => none

/-- What happens to the node besides the calls of the client. -/
def writes (history : List Deed) : List Event := history.filterMap Deed.event?

/-- Does what a deed says. -/
def enact : Deed → Act (Client Node) Rpc.Error Unit
  | .event e => Act.within Client.linkPart (perform e)
  | .call ctx method params => do
    let _ ← (Act.attempt (Client.call transport ctx method params) :
      Act (Client Node) Rpc.Error (Except Rpc.Error Json))
    return ()

/-- A history, enacted on a fresh client of a fresh node, leads to a client. -/
def Arrives (random : Random.Stream) (history : List Deed) (c : Client Node) : Prop :=
  ∃ journal, history.forM enact ⟨.fresh (fresh random), []⟩ = .ok () ⟨c, journal⟩

theorem mem_writes {history : List Deed} {event : Event} :
    event ∈ writes history ↔ .event event ∈ history := by
  rw [writes, List.mem_filterMap]
  constructor
  · rintro ⟨deed, hmem, hevent⟩
    cases deed with
    | event e =>
        cases hevent
        exact hmem
    | call ctx method params => cases hevent
  · intro hmem
    exact ⟨_, hmem, rfl⟩

theorem writes_concat (history : List Deed) (deed : Deed) :
    writes (history ++ [deed]) = writes history ++ deed.event?.toList := by
  cases h : deed.event? <;> simp [writes, h]

/-! ## Writes -/

theorem Written.call {history : List Event} {s : Traced (Client Node)}
    (h : Written history s.state.link) (ctx : Context) (method : String) (params : Json) :
    ∃ t, enact (.call ctx method params) s = .ok () t ∧ Written history t.state.link := by
  rcases call_cases ctx method params s.state s.journal with
    ⟨e, -, hcall⟩ | ⟨outcome, t, hcall, hserves⟩
  · refine ⟨s, ?_, h⟩
    rw [enact, Act.bind_ok (Act.attempt_error hcall)]
    rfl
  · refine ⟨t, ?_, h.serves hserves⟩
    cases outcome with
    | ok v =>
        rw [enact, Act.bind_ok (Act.attempt_ok hcall)]
        rfl
    | error e =>
        rw [enact, Act.bind_ok (Act.attempt_error hcall)]
        rfl

/-- What is written to a node is what the writes of the deeds say.  A call of the client is none
of them. -/
theorem Written.deed {history : List Deed} {s : Traced (Client Node)} (deed : Deed)
    (h : Written (writes history) s.state.link) :
    ∃ t, enact deed s = .ok () t ∧ Written (writes (history ++ [deed])) t.state.link := by
  rw [writes_concat]
  cases deed with
  | event event =>
      obtain ⟨t, hperform, hchanges⟩ := perform_changes event ⟨s.state.link, s.journal⟩
      exact ⟨_, Act.within_ok hperform, h.concat hchanges⟩
  | call ctx method params =>
      obtain ⟨t, henact, ht⟩ := h.call ctx method params
      exact ⟨t, henact, by simpa [Deed.event?] using ht⟩

theorem exists_arrives (random : Random.Stream) (history : List Deed) :
    ∃ c, Arrives random history c ∧ Written (writes history) c.link := by
  obtain ⟨⟨c, journal⟩, henact, hwritten⟩ :=
    @Act.exists_forM (Client Node) Rpc.Error Deed enact (fun past c => Written (writes past) c.link)
      Written.deed history [] ⟨.fresh (fresh random), []⟩ (written_fresh random)
  exact ⟨c, ⟨journal, henact⟩, hwritten⟩

/-! ## Reading -/

/-- What a client reads of all entities and tokens, under any session. -/
structure Reads (c : Client Node) (keys : Entity → Option String)
    (fees : String → List CustomFee) : Prop where
  key : ∀ ctx e journal, ∃ t,
    (ConsensusReader.ofClient transport).key ctx e ⟨c, journal⟩ = .ok (keys e) t
  fees : ∀ ctx token journal, ∃ t,
    (ConsensusReader.ofClient transport).fees ctx token ⟨c, journal⟩ = .ok (fees token) t

/-- The key that a history gives an entity last. -/
def lastKey (history : List Event) (e : Entity) : Option String :=
  latest (Event.keyOf? e) history

/-- The fees that a history gives a token last, or none of them. -/
def lastFees (history : List Event) (token : String) : List CustomFee :=
  (latest (Event.feesOf? token) history).getD []

section

variable (history : List Event) (e : Entity) (encoded token : String) (fees : List CustomFee)

theorem lastKey_setKey : lastKey (history ++ [.setKey e encoded])
    = Function.update (lastKey history) e (some encoded) := by
  funext f
  rw [lastKey, latest_concat]
  by_cases h : f = e
  · simp [Event.keyOf?, h]
  · simp [Event.keyOf?, h, Ne.symm h, lastKey]

theorem lastFees_setKey : lastFees (history ++ [.setKey e encoded]) = lastFees history := by
  funext t
  simp [lastFees, latest_concat, Event.feesOf?]

theorem lastKey_setFees : lastKey (history ++ [.setFees token fees]) = lastKey history := by
  funext f
  simp [lastKey, latest_concat, Event.keyOf?]

theorem lastFees_setFees : lastFees (history ++ [.setFees token fees])
    = Function.update (lastFees history) token fees := by
  funext t
  rw [lastFees, latest_concat]
  by_cases h : t = token
  · simp [Event.feesOf?, h]
  · simp [Event.feesOf?, h, Ne.symm h, lastFees]

end

/-- A node whose describing methods are enabled is read as it was written. -/
theorem Written.reads {history : List Event} {c : Client Node} (h : Written history c.link)
    (henabled : ∀ kind : EntityKind, .disable kind.method ∉ history) :
    Reads c (lastKey history) (lastFees history) where
  key ctx e journal := by
    have hread : e.keyIn (c.link.info e) = .ok (lastKey history e) := by
      rw [e.keyIn_info, h.keys, lastKey]
    obtain ⟨t, hdescribe, -⟩ := describe_bind (s := ⟨c, journal⟩) ctx
      (mt (h.disabled _).1 (henabled e.kind)) hread
    exact ⟨t, hdescribe⟩
  fees ctx token journal := by
    have hread : (Entity.token token).feesIn (c.link.info (.token token))
        = .ok (lastFees history token) := by
      rw [Entity.feesIn_info, h.fees, lastFees]
    obtain ⟨t, hdescribe, -⟩ := describe_bind (s := ⟨c, journal⟩) (e := .token token) ctx
      (mt (h.disabled _).1 (henabled .token)) hread
    exact ⟨t, hdescribe⟩

/-- A history of writes and calls that leaves the describing methods enabled leads to a client
that reads what was written last.  One more write of a key or of fees changes what is read of
that entity or that token, and of no other. -/
theorem exists_reads_lastWrite (random : Random.Stream) (history : List Deed)
    (henabled : ∀ kind : EntityKind, .event (.disable kind.method) ∉ history) :
    ∃ c, Arrives random history c ∧
      Reads c (lastKey (writes history)) (lastFees (writes history)) ∧
      (∀ e encoded, Reads { c with link := c.link.setKey e encoded }
        (Function.update (lastKey (writes history)) e (some encoded))
        (lastFees (writes history))) ∧
      ∀ token fees, Reads { c with link := c.link.setFees token fees }
        (lastKey (writes history)) (Function.update (lastFees (writes history)) token fees) := by
  have hwrites : ∀ kind : EntityKind, .disable kind.method ∉ writes history :=
    fun kind hmem => henabled kind (mem_writes.1 hmem)
  obtain ⟨c, harrives, hwritten⟩ := exists_arrives random history
  refine ⟨c, harrives, hwritten.reads hwrites, fun e encoded => ?_, fun token fees => ?_⟩
  · have hconcat := hwritten.concat (changes_setKey c.link e encoded)
    rw [← lastKey_setKey, ← lastFees_setKey (writes history) e encoded]
    exact Written.reads hconcat (by simpa using hwrites)
  · have hconcat := hwritten.concat (changes_setFees c.link token fees)
    rw [← lastFees_setFees, ← lastKey_setFees (writes history) token fees]
    exact Written.reads hconcat (by simpa using hwrites)

/-- An account and a topic of one number are written to, and so are the fees of a token of that
number, twice.  A key is generated in between under a session, and a call of a disabled method
fails. -/
def sharedNumber : List Deed :=
  [.event (.setKey ⟨.account, "0.0.5"⟩ "3200"), .event (.setFees "0.0.5" [.fixed "0.0.9" 1 none]),
    .call ⟨"tck", some "s1"⟩ generateMethod (generateParams .ed25519),
    .event (.setKey ⟨.topic, "0.0.5"⟩ "2a00"), .event (.disable "reset"),
    .call ⟨"tck", none⟩ "reset" (.obj []),
    .event (.setFees "0.0.5" [.fixed "0.0.9" (-9223372036854775808) (some "")])]

theorem exists_reads_lastWrite_of_sharedNumber :
    (∀ kind : EntityKind, .event (.disable kind.method) ∉ sharedNumber) ∧
      ∃ c t u, Arrives (.ofSeed 7) sharedNumber c ∧
        (ConsensusReader.ofClient transport).key ⟨"tck", some "s1"⟩ ⟨.account, "0.0.5"⟩ ⟨c, []⟩
          = .ok (some "3200") t ∧
        (ConsensusReader.ofClient transport).fees ⟨"tck", none⟩ "0.0.5" ⟨c, []⟩
          = .ok [.fixed "0.0.9" (-9223372036854775808) (some "")] u := by
  have henabled : ∀ kind : EntityKind, .event (.disable kind.method) ∉ sharedNumber := by
    intro kind
    cases kind <;> decide
  obtain ⟨c, harrives, hreads, -⟩ := exists_reads_lastWrite (.ofSeed 7) sharedNumber henabled
  obtain ⟨t, hkey⟩ := hreads.key ⟨"tck", some "s1"⟩ ⟨.account, "0.0.5"⟩ []
  obtain ⟨u, hfees⟩ := hreads.fees ⟨"tck", none⟩ "0.0.5" []
  exact ⟨henabled, c, t, u, harrives, hkey, hfees⟩

end Node

end Concord
