import Concord.Proofs.Rpc.Call
import Mathlib.Algebra.Group.Nat.Defs
import Mathlib.Data.List.Nodup
import Mathlib.Data.List.Perm.Subperm

/-!
# Calls in flight

Many calls are made on one client, and their steps come in any order: a call is made, its
parameters are refused or bound, it takes a number, its request goes out, and the transport
answers it.  A transport is free to give any response or error as its answer, and to do so
at any time (`Step.answer`).

* `Runs` takes one step after another and keeps the *history* of what happened.
* `Book` is a list of entries, each under the number of a call, that has at most one entry of
  each call.  There are two of them: the requests numbered and the requests sent.
* `Accounted` says what the history and the calls have to do with each other.  Every step
  preserves it (`Accounted.step`), and so does every run.
* `Correlated` says what follows for numbers, requests and responses.
* `Client.call_alone` says that a call takes these steps when nothing comes between them.
-/

namespace Concord.Rpc

variable {σ : Type}

/-! ## Calls and their steps -/

/-- What a call is made with. -/
structure Invocation where
  ctx : Context
  method : String
  params : Json
  deriving Repr, DecidableEq

/-- How far a call has come. -/
inductive Stage where
  | made (call : Invocation)
  /-- The parameters cannot be sent. -/
  | refused (error : Error)
  /-- The parameters are those to be sent. -/
  | bound (method : String) (params : Json)
  /-- The request has its number. -/
  | numbered (request : Request)
  | sent (request : Request)
  | ended (request : Request) (outcome : Except Error Json)

/-- What happens.  A call is named by the number of calls made before it. -/
inductive Event where
  | made (call : Invocation)
  | refused (n : Nat) (error : Error)
  | bound (n : Nat)
  | numbered (n : Nat) (request : Request)
  | sent (n : Nat) (request : Request)
  /-- The transport gives an answer to the request of a call. -/
  | answered (n : Nat) (answer : Except Error Response)

/-- A client, and the calls made on it, oldest first. -/
structure InFlight (σ : Type) where
  client : Client σ
  calls : List Stage

namespace InFlight

/-- A client before its first call. -/
def fresh (link : σ) : InFlight σ := ⟨.fresh link, []⟩

/-- Takes a call to another stage. -/
def advance (s : InFlight σ) (n : Nat) (stage : Stage) : InFlight σ :=
  { s with calls := s.calls.set n stage }

/-- Leaves the transport in another state. -/
def relink (s : InFlight σ) (link : σ) : InFlight σ :=
  { s with client := { s.client with link := link } }

end InFlight

/-- One step of one call. -/
inductive Step : InFlight σ → Event → InFlight σ → Prop where
  | make (s : InFlight σ) (call : Invocation) :
      Step s (.made call) { s with calls := s.calls ++ [.made call] }
  | refuse {s : InFlight σ} {n : Nat} {call : Invocation} {e : Error}
      (h : s.calls[n]? = some (.made call))
      (hbind : bindSession call.ctx call.method call.params = .error e) :
      Step s (.refused n e) (s.advance n (.refused e))
  | bind {s : InFlight σ} {n : Nat} {call : Invocation} {params : Json}
      (h : s.calls[n]? = some (.made call))
      (hbind : bindSession call.ctx call.method call.params = .ok params) :
      Step s (.bound n) (s.advance n (.bound call.method params))
  | number {s : InFlight σ} {n : Nat} {method : String} {params : Json}
      (h : s.calls[n]? = some (.bound method params)) :
      Step s (.numbered n (s.client.nextRequest method params))
        ({ s with client := s.client.allocate }.advance n
          (.numbered (s.client.nextRequest method params)))
  | send {s : InFlight σ} {n : Nat} {request : Request} (link : σ)
      (h : s.calls[n]? = some (.numbered request)) :
      Step s (.sent n request) ((s.relink link).advance n (.sent request))
  /-- Whatever the transport answers, and whenever it does. -/
  | answer {s : InFlight σ} {n : Nat} {request : Request} (link : σ)
      (answer : Except Error Response) (h : s.calls[n]? = some (.sent request)) :
      Step s (.answered n answer)
        ((s.relink link).advance n (.ended request (conclude request answer)))

/-- Steps one after another, with the history of what happened, the first event first. -/
inductive Runs (s : InFlight σ) : List Event → InFlight σ → Prop where
  | refl : Runs s [] s
  | tail {history : List Event} {t u : InFlight σ} {event : Event}
      (hruns : Runs s history t) (hstep : Step t event u) : Runs s (history ++ [event]) u

/-! ## Books -/

/-- Requests, each under the number of a call. -/
abbrev Entries := List (Nat × Request)

/-- The requests of one call. -/
def Entries.of (n : Nat) (entries : Entries) : List Request :=
  (entries.filter (·.1 = n)).map (·.2)

theorem Entries.mem_of {entries : Entries} {n : Nat} {request : Request} :
    request ∈ entries.of n ↔ (n, request) ∈ entries := by
  simp [Entries.of]

theorem Entries.of_append (n : Nat) (entries more : Entries) :
    Entries.of n (entries ++ more) = entries.of n ++ Entries.of n more := by
  simp [Entries.of]

/-- A list of entries holds what is on file for every call, once. -/
def Book (entries : Entries) (file : Nat → Option Request) : Prop :=
  ∀ n, entries.of n = (file n).toList

/-- What a step files for a call: nothing new, or its first entry. -/
inductive Files (n : Nat) : Option Request → Option Request → Option (Nat × Request) → Prop where
  | same (r : Option Request) : Files n r r none
  | first (r : Request) : Files n none (some r) (some (n, r))

theorem Files.of_self {n : Nat} {old now : Option Request} {entry : Option (Nat × Request)}
    (h : Files n old now entry) : old.toList ++ Entries.of n entry.toList = now.toList := by
  cases h <;> simp [Entries.of]

theorem Files.of_other {n m : Nat} {old now : Option Request} {entry : Option (Nat × Request)}
    (h : Files n old now entry) (hm : m ≠ n) : Entries.of m entry.toList = [] := by
  cases h <;> simp [Entries.of, hm.symm]

namespace Book

variable {entries : Entries} {file : Nat → Option Request} {n : Nat} {request : Request}

theorem mem_iff (h : Book entries file) : (n, request) ∈ entries ↔ file n = some request := by
  rw [← Entries.mem_of, h n, Option.mem_toList]

/-- A step that files what it says keeps the book. -/
theorem concat (h : Book entries file) {file' : Nat → Option Request}
    {entry : Option (Nat × Request)} (hfiles : Files n (file n) (file' n) entry)
    (hother : ∀ m, m ≠ n → file' m = file m) : Book (entries ++ entry.toList) file' := by
  intro m
  rw [Entries.of_append, h m]
  by_cases hm : m = n
  · subst hm
    exact hfiles.of_self
  · rw [hfiles.of_other hm, List.append_nil, hother m hm]

/-- No call has two entries. -/
theorem nodup (h : Book entries file) : (entries.map (·.1)).Nodup := by
  rw [List.nodup_iff_count_le_one]
  intro n
  have hcount : (entries.map (·.1)).count n = (entries.of n).length := by
    rw [Entries.of, List.length_map, List.count, List.countP_map, List.countP_eq_length_filter]
    rfl
  rw [hcount, h n]
  cases file n <;> simp

/-- There are no more entries than calls. -/
theorem length_le (h : Book entries file) {k : Nat} (hfile : ∀ n, k ≤ n → file n = none) :
    entries.length ≤ k := by
  have hsubset : entries.map (·.1) ⊆ List.range k := by
    intro n hn
    obtain ⟨⟨n, request⟩, hmem, rfl⟩ := List.mem_map.1 hn
    rw [List.mem_range]
    by_contra hk
    have hnone : file n = none := hfile n (Nat.le_of_not_lt hk)
    rw [h.mem_iff.1 hmem] at hnone
    cases hnone
  have hle := (List.subperm_of_subset h.nodup hsubset).length_le
  rwa [List.length_map, List.length_range] at hle

end Book

/-! ## Accounts -/

/-- The request that has the number of a call. -/
def Stage.request? : Stage → Option Request
  | .numbered request => some request
  | .sent request => some request
  | .ended request _ => some request
  | _ => none

/-- The request of a call that has been sent. -/
def Stage.sentRequest? : Stage → Option Request
  | .sent request => some request
  | .ended request _ => some request
  | _ => none

def Event.numbering? : Event → Option (Nat × Request)
  | .numbered n request => some (n, request)
  | _ => none

def Event.sending? : Event → Option (Nat × Request)
  | .sent n request => some (n, request)
  | _ => none

/-- The requests that took numbers, in the order in which they took them. -/
def numberings (history : List Event) : Entries := history.filterMap Event.numbering?

/-- The requests that were sent, in the order in which they were. -/
def sendings (history : List Event) : Entries := history.filterMap Event.sending?

/-- What the stages of the calls have on file. -/
def InFlight.file (s : InFlight σ) (f : Stage → Option Request) (n : Nat) : Option Request :=
  s.calls[n]?.bind f

/-- Numbers are taken in order, and the client keeps the latest.  It counts in 64 bits. -/
structure InOrder (entries : Entries) (lastId : UInt64) : Prop where
  ids : entries.map (·.2.id) = (List.range' 1 entries.length).map UInt64.ofNat
  lastId : lastId = .ofNat entries.length

/-- What a history tells of a call at its end.  A call that was refused had parameters that
cannot be sent, and any other ended with what is made of an answer to it. -/
def Told (history : List Event) (n : Nat) : Stage → Prop
  | .refused e => ∃ method params, e = .invalidParams method params
  | .ended request outcome =>
    ∃ answer, .answered n answer ∈ history ∧ outcome = conclude request answer
  | _ => True

/-- What a history and the calls have to do with each other. -/
structure Accounted (history : List Event) (s : InFlight σ) : Prop where
  inOrder : InOrder (numberings history) s.client.lastId
  numbered : Book (numberings history) (s.file Stage.request?)
  sent : Book (sendings history) (s.file Stage.sentRequest?)
  told : ∀ n stage, s.calls[n]? = some stage → Told history n stage

theorem accounted_fresh (link : σ) : Accounted [] (InFlight.fresh link) where
  inOrder := ⟨rfl, rfl⟩
  numbered _ := rfl
  sent _ := rfl
  told _ _ h := by cases h

theorem numberings_concat (history : List Event) (event : Event) :
    numberings (history ++ [event]) = numberings history ++ event.numbering?.toList := by
  cases h : event.numbering? <;> simp [numberings, h]

theorem sendings_concat (history : List Event) (event : Event) :
    sendings (history ++ [event]) = sendings history ++ event.sending?.toList := by
  cases h : event.sending? <;> simp [sendings, h]

theorem Told.concat {history : List Event} {n : Nat} {stage : Stage}
    (h : Told history n stage) (event : Event) : Told (history ++ [event]) n stage := by
  cases stage with
  | ended request outcome =>
      obtain ⟨answer, hmem, houtcome⟩ := h
      exact ⟨answer, List.mem_append_left _ hmem, houtcome⟩
  | refused e => exact h
  | made call => trivial
  | bound method params => trivial
  | numbered request => trivial
  | sent request => trivial

/-- The next number follows the ones before it. -/
theorem InOrder.concat {entries : Entries} {c : Client σ} (h : InOrder entries c.lastId)
    (n : Nat) (method : String) (params : Json) :
    InOrder (entries ++ [(n, c.nextRequest method params)]) c.allocate.lastId := by
  have hnext : c.allocate.lastId = UInt64.ofNat (entries.length + 1) := by
    rw [Client.allocate, h.lastId, UInt64.ofNat_add]
    rfl
  refine ⟨?_, ?_⟩
  · rw [List.map_append, h.ids, List.length_append, List.length_singleton, List.range'_concat,
      List.map_append, Nat.one_mul, Nat.add_comm 1]
    exact congrArg (_ ++ [·]) hnext
  · rw [List.length_append]
    exact hnext

section

variable {history : List Event} {s t : InFlight σ} {event : Event} {n : Nat} {old now : Stage}

/-- Only the file of a call that moves on changes. -/
theorem InFlight.file_set (hold : s.calls[n]? = some old)
    (hcalls : t.calls = s.calls.set n now) (f : Stage → Option Request) :
    s.file f n = f old ∧ t.file f n = f now ∧ ∀ m, m ≠ n → t.file f m = s.file f m := by
  have hlt : n < s.calls.length := (List.getElem?_eq_some_iff.1 hold).1
  refine ⟨?_, ?_, fun m hm => ?_⟩
  · rw [file, hold, Option.bind_some]
  · rw [file, hcalls, List.getElem?_set_self hlt, Option.bind_some]
  · rw [file, file, hcalls, List.getElem?_set_ne hm.symm]

/-- A call moves on from one stage to another, and the books take in what the event says. -/
theorem Accounted.advance (h : Accounted history s) (hold : s.calls[n]? = some old)
    (hcalls : t.calls = s.calls.set n now)
    (hinOrder : InOrder (numberings (history ++ [event])) t.client.lastId)
    (hnumbered : Files n old.request? now.request? event.numbering?)
    (hsent : Files n old.sentRequest? now.sentRequest? event.sending?)
    (htold : Told (history ++ [event]) n now) : Accounted (history ++ [event]) t where
  inOrder := hinOrder
  numbered := by
    obtain ⟨hself, hself', hother⟩ := InFlight.file_set hold hcalls Stage.request?
    rw [numberings_concat]
    refine h.numbered.concat (n := n) ?_ hother
    rwa [hself, hself']
  sent := by
    obtain ⟨hself, hself', hother⟩ := InFlight.file_set hold hcalls Stage.sentRequest?
    rw [sendings_concat]
    refine h.sent.concat (n := n) ?_ hother
    rwa [hself, hself']
  told m stage hstage := by
    rw [hcalls] at hstage
    by_cases hm : m = n
    · subst hm
      rw [List.getElem?_set_self (List.getElem?_eq_some_iff.1 hold).1] at hstage
      cases hstage
      exact htold
    · rw [List.getElem?_set_ne (Ne.symm hm)] at hstage
      exact (h.told m stage hstage).concat event

/-- An event that is no numbering leaves the order as it is. -/
theorem InOrder.idle (h : InOrder (numberings history) s.client.lastId)
    (hclient : t.client.lastId = s.client.lastId) (hidle : event.numbering? = none) :
    InOrder (numberings (history ++ [event])) t.client.lastId := by
  rw [numberings_concat, hidle, Option.toList_none, List.append_nil, hclient]
  exact h

/-- A call that is made has nothing on file. -/
theorem Accounted.make (h : Accounted history s) (call : Invocation) :
    Accounted (history ++ [.made call]) { s with calls := s.calls ++ [.made call] } := by
  have hstage : ∀ n : Nat, (s.calls ++ [Stage.made call])[n]? = s.calls[n]? ∨
      s.calls[n]? = none ∧ (s.calls ++ [Stage.made call])[n]? = some (Stage.made call) := by
    intro n
    rcases Nat.lt_trichotomy n s.calls.length with hlt | rfl | hgt
    · exact Or.inl (List.getElem?_append_left hlt)
    · exact Or.inr ⟨List.getElem?_eq_none (Nat.le_refl _), List.getElem?_concat_length ..⟩
    · refine Or.inl ?_
      rw [List.getElem?_eq_none (by simpa using Nat.succ_le_of_lt hgt),
        List.getElem?_eq_none (Nat.le_of_lt hgt)]
  have hfile : ∀ f : Stage → Option Request, f (.made call) = none →
      InFlight.file { s with calls := s.calls ++ [.made call] } f = s.file f := by
    intro f hf
    funext n
    rcases hstage n with hsame | ⟨hnone, hmade⟩
    · rw [InFlight.file, hsame, InFlight.file]
    · rw [InFlight.file, hmade, InFlight.file, hnone, Option.bind_some, hf, Option.bind_none]
  refine ⟨h.inOrder.idle rfl rfl, ?_, ?_, fun n stage hn => ?_⟩
  · rw [hfile _ rfl, numberings_concat]
    exact (List.append_nil (numberings history)).symm ▸ h.numbered
  · rw [hfile _ rfl, sendings_concat]
    exact (List.append_nil (sendings history)).symm ▸ h.sent
  · rcases hstage n with hsame | ⟨-, hmade⟩
    · exact (h.told n stage (hsame.symm.trans hn)).concat _
    · obtain rfl : Stage.made call = stage := Option.some.inj (hmade.symm.trans hn)
      trivial

/-- Every step of every call keeps the accounts. -/
theorem Accounted.step (h : Accounted history s) (hstep : Step s event t) :
    Accounted (history ++ [event]) t := by
  cases hstep with
  | make call => exact h.make call
  | refuse hcall hbind =>
      refine h.advance hcall rfl (h.inOrder.idle rfl rfl) (.same none) (.same none) ?_
      exact ⟨_, _, eq_invalidParams_of_bindSession hbind⟩
  | bind hcall hbind =>
      exact h.advance hcall rfl (h.inOrder.idle rfl rfl) (.same none) (.same none) trivial
  | number hcall =>
      refine h.advance hcall rfl ?_ (.first _) (.same none) trivial
      rw [numberings_concat]
      exact h.inOrder.concat _ _ _
  | send link hcall =>
      exact h.advance hcall rfl (h.inOrder.idle rfl rfl) (.same _) (.first _) trivial
  | answer link answer hcall =>
      refine h.advance hcall rfl (h.inOrder.idle rfl rfl) (.same _) (.same _) ?_
      exact ⟨answer, List.mem_append_right _ (List.mem_singleton_self _), rfl⟩

theorem Runs.accounted {link : σ} (h : Runs (InFlight.fresh link) history s) :
    Accounted history s := by
  induction h with
  | refl => exact accounted_fresh link
  | tail _ hstep ih => exact ih.step hstep

/-! ## What numbers and responses tell -/

/-- What is known of the numbers, the requests and the outcomes of calls in flight. -/
structure Correlated (history : List Event) (s : InFlight σ) : Prop where
  /-- The numbers are one, two and so on, in the order in which they are taken. -/
  ids : (numberings history).map (·.2.id.toNat)
    = List.range' 1 (numberings history).length
  /-- No number is taken twice. -/
  ids_nodup : ((numberings history).map (·.2.id)).Nodup
  /-- The client tells how many have been taken. -/
  lastId : s.client.lastId.toNat = (numberings history).length
  /-- No call takes two numbers or sends two requests. -/
  once : ((numberings history).map (·.1)).Nodup ∧ ((sendings history).map (·.1)).Nodup
  /-- A request that is sent has the number that its call took. -/
  sent_numbered : ∀ n request, (n, request) ∈ sendings history →
    (n, request) ∈ numberings history
  /-- A call that is refused takes no number and sends nothing. -/
  refused : ∀ n e, s.calls[n]? = some (.refused e) →
    (∃ method params, e = .invalidParams method params) ∧
      (∀ request, (n, request) ∉ numberings history) ∧
      ∀ request, (n, request) ∉ sendings history
  /-- A call that succeeds does so on a response to itself, which has no error and the number
  that the call took, and so the number of no other call. -/
  ok : ∀ n request v, s.calls[n]? = some (.ended request (.ok v)) →
    (n, request) ∈ numberings history ∧ (n, request) ∈ sendings history ∧
      ∃ r, .answered n (.ok r) ∈ history ∧ r.error = none ∧ r.id = .nat64 request.id ∧
        v = r.result.getD .null ∧
        ∀ m other, (m, other) ∈ numberings history → m ≠ n → r.id ≠ .nat64 other.id

theorem nat64_injective {a b : UInt64} (h : Json.nat64 a = Json.nat64 b) : a = b := by
  have hint : Int.ofNat a.toNat = Int.ofNat b.toNat := Json.int.inj h
  exact UInt64.toNat.inj (Int.ofNat.inj hint)

/-- Numbers below `2 ^ 64` are themselves. -/
theorem InOrder.toNat_ids {entries : Entries} {lastId : UInt64} (h : InOrder entries lastId)
    (hfew : entries.length < 2 ^ 64) :
    entries.map (·.2.id.toNat) = List.range' 1 entries.length := by
  have hmap : entries.map (·.2.id.toNat) = (entries.map (·.2.id)).map UInt64.toNat := by
    rw [List.map_map]
    rfl
  rw [hmap, h.ids, List.map_map]
  refine (List.map_congr_left fun k hk => ?_).trans (List.map_id _)
  have hlt : k < 2 ^ 64 := by
    have := (List.mem_range'_1.1 hk).2
    omega
  exact UInt64.toNat_ofNat_of_lt' hlt

/-- A request is filed as sent only under the number of its call. -/
theorem Stage.request?_of_sentRequest? {stage : Stage} {request : Request}
    (h : stage.sentRequest? = some request) : stage.request? = some request := by
  cases stage with
  | sent r => exact h
  | ended r outcome => exact h
  | made call => cases h
  | refused e => cases h
  | bound method params => cases h
  | numbered r => cases h

theorem Accounted.numbered_of_sent (h : Accounted history s) {request : Request}
    (hmem : (n, request) ∈ sendings history) : (n, request) ∈ numberings history := by
  obtain ⟨stage, hstage, hsent⟩ := Option.bind_eq_some_iff.1 (h.sent.mem_iff.1 hmem)
  exact h.numbered.mem_iff.2
    (Option.bind_eq_some_iff.2 ⟨stage, hstage, stage.request?_of_sentRequest? hsent⟩)

theorem Accounted.not_mem_of_refused (h : Accounted history s) {e : Error}
    (hstage : s.calls[n]? = some (.refused e)) (request : Request) :
    (n, request) ∉ numberings history := by
  intro hmem
  have hfile := h.numbered.mem_iff.1 hmem
  rw [InFlight.file, hstage] at hfile
  cases hfile

/-- Two calls have two numbers. -/
theorem id_ne_of_ne {entries : Entries} (h : (entries.map (·.2.id)).Nodup) {m : Nat}
    {request other : Request} (hn : (n, request) ∈ entries) (hm : (m, other) ∈ entries)
    (hne : m ≠ n) : request.id ≠ other.id := by
  intro hid
  have heq : (n, request) = (m, other) := List.inj_on_of_nodup_map h hn hm hid
  exact hne (congrArg Prod.fst heq).symm

theorem Accounted.correlated (h : Accounted history s) (hfew : s.calls.length < 2 ^ 64 - 1) :
    Correlated history s := by
  have hlength : (numberings history).length ≤ s.calls.length :=
    h.numbered.length_le fun n hn => by
      rw [InFlight.file, List.getElem?_eq_none hn, Option.bind_none]
  have hbound : (numberings history).length < 2 ^ 64 := by omega
  have hids := h.inOrder.toNat_ids hbound
  have hnodup : ((numberings history).map (·.2.id)).Nodup := by
    refine List.Nodup.of_map UInt64.toNat ?_
    rw [List.map_map]
    exact hids ▸ List.nodup_range'
  refine ⟨hids, hnodup, ?_, ⟨h.numbered.nodup, h.sent.nodup⟩,
    fun n request => h.numbered_of_sent, fun n e hstage => ⟨h.told n _ hstage, ?_, ?_⟩,
    fun n request v hstage => ?_⟩
  · rw [h.inOrder.lastId, UInt64.toNat_ofNat_of_lt' hbound]
  · exact h.not_mem_of_refused hstage
  · intro request hmem
    exact h.not_mem_of_refused hstage request (h.numbered_of_sent hmem)
  · have hnumbered : (n, request) ∈ numberings history :=
      h.numbered.mem_iff.2 (Option.bind_eq_some_iff.2 ⟨_, hstage, rfl⟩)
    have hsent : (n, request) ∈ sendings history :=
      h.sent.mem_iff.2 (Option.bind_eq_some_iff.2 ⟨_, hstage, rfl⟩)
    obtain ⟨answer, hanswer, houtcome⟩ := h.told n _ hstage
    cases answer with
    | error e => cases houtcome
    | ok r =>
        obtain ⟨herror, hid, hv⟩ := settle_eq_ok_iff.1 houtcome.symm
        refine ⟨hnumbered, hsent, r, hanswer, herror, hid, hv, fun m other hm hne hother => ?_⟩
        exact id_ne_of_ne hnodup hnumbered hm hne (nat64_injective (hid.symm.trans hother))

end

/-! ## A call on its own -/

/-- How a call has ended. -/
def Stage.outcome? : Stage → Option (Except Error Json)
  | .refused e => some (.error e)
  | .ended _ outcome => some outcome
  | _ => none

/-- What a call does from a client and the calls on it, when nothing comes between its
steps: it runs to its end, and the transport is asked at most once. -/
structure Alone (t : Transport σ) (s : Traced (Client σ)) (calls : List Stage)
    (o : Except Error Json) (u : Traced (Client σ)) (history : List Event) (stage : Stage) :
    Prop where
  runs : Runs ⟨s.state, calls⟩ history ⟨u.state, calls ++ [stage]⟩
  outcome : stage.outcome? = some o
  /-- An answer is what the transport gives when it is asked to send the request. -/
  asked : ∀ answer, .answered calls.length answer ∈ history →
    ∃ request journal journal', .sent calls.length request ∈ history ∧
      t.send request ⟨s.state.link, journal⟩ = Act.ofExcept answer ⟨u.state.link, journal'⟩

/-- A call that is alone is the latest. -/
theorem InFlight.advance_last (c : Client σ) (calls : List Stage) (old now : Stage) :
    InFlight.advance ⟨c, calls ++ [old]⟩ calls.length now = ⟨c, calls ++ [now]⟩ := by
  rw [InFlight.advance, List.set_append_right _ _ (Nat.le_refl _), Nat.sub_self,
    List.set_cons_zero]

theorem runs_refused (c : Client σ) (calls : List Stage) {ctx : Context} {method : String}
    {params : Json} {e : Error} (hbind : bindSession ctx method params = .error e) :
    Runs ⟨c, calls⟩ [.made ⟨ctx, method, params⟩, .refused calls.length e]
      ⟨c, calls ++ [.refused e]⟩ := by
  have hmade := Runs.tail .refl (Step.make ⟨c, calls⟩ ⟨ctx, method, params⟩)
  have hrefused := hmade.tail (.refuse List.getElem?_concat_length hbind)
  rwa [InFlight.advance_last] at hrefused

/-- The steps of a call that is sent, up to the answer. -/
theorem runs_answered (c : Client σ) (calls : List Stage) {ctx : Context} {method : String}
    {params bound : Json} (hbind : bindSession ctx method params = .ok bound) (link : σ)
    (answer : Except Error Response) :
    Runs ⟨c, calls⟩
      [.made ⟨ctx, method, params⟩, .bound calls.length,
        .numbered calls.length (c.nextRequest method bound),
        .sent calls.length (c.nextRequest method bound), .answered calls.length answer]
      ⟨c.afterSend link, calls ++ [.ended (c.nextRequest method bound)
        (conclude (c.nextRequest method bound) answer)]⟩ := by
  have hmade := Runs.tail .refl (Step.make ⟨c, calls⟩ ⟨ctx, method, params⟩)
  have hbound := hmade.tail (.bind List.getElem?_concat_length hbind)
  rw [InFlight.advance_last] at hbound
  have hnumbered := hbound.tail (.number List.getElem?_concat_length)
  rw [InFlight.advance_last] at hnumbered
  have hsent := hnumbered.tail (.send link List.getElem?_concat_length)
  rw [InFlight.relink, InFlight.advance_last] at hsent
  have hanswered := hsent.tail (.answer link answer List.getElem?_concat_length)
  rwa [InFlight.relink, InFlight.advance_last] at hanswered

/-- A call that is sent runs to the answer of the transport. -/
theorem Client.alone_of_answer {t : Transport σ} {ctx : Context} {method : String}
    {params bound : Json} {s : Traced (Client σ)} (calls : List Stage) {u : Traced σ}
    (answer : Except Error Response) {journal : List Record}
    (hbind : bindSession ctx method params = .ok bound)
    (hsend : t.send (s.state.nextRequest method bound) (Client.beforeSend s ctx method)
      = Act.ofExcept answer u) :
    Alone t s calls (conclude (s.state.nextRequest method bound) answer)
      ⟨s.state.afterSend u.state, journal⟩
      [.made ⟨ctx, method, params⟩, .bound calls.length,
        .numbered calls.length (s.state.nextRequest method bound),
        .sent calls.length (s.state.nextRequest method bound), .answered calls.length answer]
      (.ended (s.state.nextRequest method bound)
        (conclude (s.state.nextRequest method bound) answer)) where
  runs := runs_answered s.state calls hbind u.state answer
  outcome := rfl
  asked other hother := by
    have heq : other = answer := by simpa using hother
    subst heq
    exact ⟨_, _, u.journal, by simp, hsend⟩

theorem Client.call_alone (t : Transport σ) (ctx : Context) (method : String) (params : Json)
    (s : Traced (Client σ)) (calls : List Stage) :
    ∃ o u history stage, Client.call t ctx method params s = Act.ofExcept o u ∧
      Alone t s calls o u history stage := by
  cases hbind : bindSession ctx method params with
  | error e =>
      refine ⟨.error e, s, _, _, call_of_refused hbind, runs_refused s.state calls hbind, rfl, ?_⟩
      intro answer hanswer
      simp at hanswer
  | ok bound =>
      cases hsend : t.send (s.state.nextRequest method bound) (beforeSend s ctx method) with
      | error e u =>
          exact ⟨.error e, ⟨s.state.afterSend u.state, u.journal⟩, _, _,
            call_of_unanswered hbind hsend, alone_of_answer calls (.error e) hbind hsend⟩
      | ok r u =>
          exact ⟨_, _, _, _, call_of_response hbind hsend,
            alone_of_answer calls (.ok r) hbind hsend⟩

/-! ## Correlation -/

/-- Of fewer than `2 ^ 64 - 1` calls, in whatever order their steps come and whatever the
transport answers, each has a number of its own and succeeds on no other.  A call that is made
as one takes such steps. -/
theorem runs_correlated {link : σ} {history : List Event} {s : InFlight σ}
    (h : Runs (InFlight.fresh link) history s) (hfew : s.calls.length < 2 ^ 64 - 1) :
    Correlated history s ∧
      ∀ (t : Transport σ) (ctx : Context) (method : String) (params : Json)
        (journal : List Record), ∃ o u next stage,
          Client.call t ctx method params ⟨s.client, journal⟩ = Act.ofExcept o u ∧
            Alone t ⟨s.client, journal⟩ s.calls o u next stage :=
  ⟨h.accounted.correlated hfew, fun t ctx method params journal =>
    Client.call_alone t ctx method params ⟨s.client, journal⟩ s.calls⟩

/-- Three calls.  The second takes its number first, the first gets the response to the
second, and the third is refused. -/
def swappedAnswers : List Event :=
  [.made ⟨⟨"tck", none⟩, "createKey", .null⟩, .made ⟨⟨"tck", none⟩, "reset", .null⟩,
    .made ⟨⟨"tck", some "s1"⟩, "setup", .arr []⟩, .bound 1, .bound 0,
    .numbered 1 (.new 1 "reset" .null), .numbered 0 (.new 2 "createKey" .null),
    .sent 0 (.new 2 "createKey" .null), .refused 2 (.invalidParams "setup" (.arr [])),
    .sent 1 (.new 1 "reset" .null), .answered 0 (.ok (.success 1 (.str "done"))),
    .answered 1 (.ok (.success 1 (.str "done")))]

def afterSwappedAnswers : InFlight Unit :=
  ⟨⟨2, ()⟩,
    [.ended (.new 2 "createKey" .null) (.error (.mismatchedId 2 (.nat64 1))),
      .ended (.new 1 "reset" .null) (.ok (.str "done")),
      .refused (.invalidParams "setup" (.arr []))]⟩

theorem runs_correlated_of_swapped_answers :
    Runs (InFlight.fresh ()) swappedAnswers afterSwappedAnswers ∧
      Correlated swappedAnswers afterSwappedAnswers := by
  have hfirst := Runs.tail .refl
    (Step.make (InFlight.fresh ()) ⟨⟨"tck", none⟩, "createKey", .null⟩)
  have hmade := (hfirst.tail (.make _ ⟨⟨"tck", none⟩, "reset", .null⟩)).tail
    (.make _ ⟨⟨"tck", some "s1"⟩, "setup", .arr []⟩)
  have hnumbered := (((hmade.tail (.bind (n := 1) rfl rfl)).tail (.bind (n := 0) rfl rfl)).tail
    (.number (n := 1) rfl)).tail (.number (n := 0) rfl)
  have hsent := ((hnumbered.tail (.send (n := 0) () rfl)).tail (.refuse (n := 2) rfl rfl)).tail
    (.send (n := 1) () rfl)
  have hruns : Runs (InFlight.fresh ()) swappedAnswers afterSwappedAnswers :=
    (hsent.tail (.answer (n := 0) () (.ok (.success 1 (.str "done"))) rfl)).tail
      (.answer (n := 1) () (.ok (.success 1 (.str "done"))) rfl)
  exact ⟨hruns, (runs_correlated hruns (by decide)).1⟩

end Concord.Rpc
