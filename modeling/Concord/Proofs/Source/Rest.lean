import Concord.Proofs.Act
import Concord.Source.Rest

/-!
# What exchanges with the mirror tell

An exchange with the mirror shows a record, or it is transient and says nothing of the record, or
it is unusable and never will be anything else (`RestMirror.transient_or`).  A record in turn
tells its part or holds a malformed one.  A member that is absent or `null` is not malformed; it
tells that there is nothing.

`RestMirror.Reads` says that a reader takes exchanges for what they are.  The three ends of an
exchange exclude each other, so that what is read tells the end (`RestMirror.Reads.error_iff`,
`RestMirror.Reads.found_iff`).

`Http.Link.replay` is a link of which nothing is known but how its exchanges end.  A mirror that
is reached over it is asked for the same record every time (`RestMirror.follows_ask`).
-/

namespace Concord

open Act (Follows)

namespace Http

/-! ## Links that replay outcomes -/

/-- A link whose exchanges end along a sequence.  It keeps the requests that it delivers. -/
def Link.replay (outcomes : Nat → Outcome) : Link (List Query) where
  exchange q sent := (outcomes (sent.length + 1), sent ++ [q])

/-- A request was delivered a number of times, and no other was. -/
def Delivered (q : Query) (n : Nat) (sent : List Query) : Prop := sent = List.replicate n q

theorem Delivered.snoc {q : Query} {n : Nat} {sent : List Query} (h : Delivered q n sent) :
    Delivered q (n + 1) (sent ++ [q]) := by
  obtain rfl : sent = List.replicate n q := h
  exact List.replicate_succ'.symm

theorem Delivered.length {q : Query} {n : Nat} {sent : List Query} (h : Delivered q n sent) :
    sent.length = n := by
  obtain rfl : sent = List.replicate n q := h
  exact List.length_replicate

/-! ## Statuses -/

namespace Status

variable {s : Status}

theorem ne_notFound_of_isSuccess (h : s.isSuccess = true) : s ≠ notFound := by
  rintro rfl
  exact absurd h (by decide)

theorem isServerError_of_isSuccess (h : s.isSuccess = true) : s.isServerError = false := by
  simp only [isSuccess, decide_eq_true_eq] at h
  simp only [isServerError, decide_eq_false_iff_not]
  omega

theorem ne_notFound_of_isServerError (h : s.isServerError = true) : s ≠ notFound := by
  rintro rfl
  exact absurd h (by decide)

end Status

end Http

namespace RestMirror

open Http (Outcome Link Query Delivered)

/-! ## The ends of an exchange -/

/-- The exchange tells nothing of the record, and may tell something another time. -/
inductive Transient : Outcome → Prop where
  | refused : Transient .refused
  | timedOut : Transient .timedOut
  | notFound {body} : Transient (.answered .notFound body)
  | serverError {s body} (h : s.isServerError = true) : Transient (.answered s body)

/-- The exchange brought a record. -/
inductive Shows : Outcome → Json → Prop where
  | mk {s text record} (h : s.isSuccess = true)
      (hparse : Json.parse Json.usualDepth text = some record) :
      Shows (.answered s (.complete text)) record

/-- The exchange failed for good. -/
inductive Unusable : Outcome → Prop where
  | dropped : Unusable .dropped
  /-- The status is none of those that mean something. -/
  | status {s body} (hfound : s ≠ .notFound) (hserver : s.isServerError = false)
      (hsuccess : s.isSuccess = false) : Unusable (.answered s body)
  | notJson {s text} (h : s.isSuccess = true)
      (hparse : Json.parse Json.usualDepth text = none) :
      Unusable (.answered s (.complete text))
  /-- The body of a success did not come in time, so that there is no JSON. -/
  | bodyTimedOut {s} (h : s.isSuccess = true) : Unusable (.answered s .timedOut)
  /-- Nor is there any when it broke off. -/
  | bodyBroken {s} (h : s.isSuccess = true) : Unusable (.answered s .broken)

/-- An exchange has one of the three ends. -/
theorem transient_or (o : Outcome) :
    Transient o ∨ (∃ record, Shows o record) ∨ Unusable o := by
  cases o with
  | refused => exact .inl .refused
  | timedOut => exact .inl .timedOut
  | dropped => exact .inr (.inr .dropped)
  | answered s body =>
      by_cases hfound : s = .notFound
      · subst hfound
        exact .inl .notFound
      · cases hserver : s.isServerError with
        | true => exact .inl (.serverError hserver)
        | false =>
            cases hsuccess : s.isSuccess with
            | false => exact .inr (.inr (.status hfound hserver hsuccess))
            | true =>
                cases body with
                | timedOut => exact .inr (.inr (.bodyTimedOut hsuccess))
                | broken => exact .inr (.inr (.bodyBroken hsuccess))
                | complete text =>
                    cases hparse : Json.parse Json.usualDepth text with
                    | none => exact .inr (.inr (.notJson hsuccess hparse))
                    | some record => exact .inr (.inl ⟨record, .mk hsuccess hparse⟩)

section

variable (url : String) (e : Entity) {o : Outcome}

theorem ofResponse_of_isSuccess {s : Http.Status} {body : Http.Body} (h : s.isSuccess = true) :
    ofResponse url e s body = (ofBody url body, []) := by
  rw [ofResponse, if_neg (Http.Status.ne_notFound_of_isSuccess h),
    if_neg (by rw [Http.Status.isServerError_of_isSuccess h]; exact Bool.false_ne_true), if_pos h]

/-- A transient exchange leaves a record without a value. -/
theorem ofOutcome_of_transient (h : Transient o) :
    ∃ r, (ofOutcome url e o).1 = .ok r ∧ r.value? = none := by
  cases h with
  | refused => exact ⟨_, rfl, rfl⟩
  | timedOut => exact ⟨_, rfl, rfl⟩
  | notFound => exact ⟨.notIndexed, rfl, rfl⟩
  | @serverError s body hserver =>
      refine ⟨.unavailable ("HTTP " ++ s.display), ?_, rfl⟩
      rw [ofOutcome, ofResponse, if_neg (Http.Status.ne_notFound_of_isServerError hserver),
        if_pos hserver]

theorem ofOutcome_of_shows {record : Json} (h : Shows o record) :
    (ofOutcome url e o).1 = .ok (.found record) := by
  cases h with
  | mk hsuccess hparse =>
      rw [ofOutcome, ofResponse_of_isSuccess url e hsuccess]
      simp only [ofBody, hparse]

theorem ofOutcome_of_unusable (h : Unusable o) : ∃ cause, (ofOutcome url e o).1 = .error cause := by
  cases h with
  | dropped => exact ⟨_, rfl⟩
  | @status s body hfound hserver hsuccess =>
      refine ⟨.plain (statusText url s), ?_⟩
      rw [ofOutcome, ofResponse, if_neg hfound, if_neg (by simp [hserver]),
        if_neg (by simp [hsuccess])]
  | notJson hsuccess hparse =>
      rw [ofOutcome, ofResponse_of_isSuccess url e hsuccess]
      simp only [ofBody, hparse]
      exact ⟨_, rfl⟩
  | bodyTimedOut hsuccess =>
      rw [ofOutcome, ofResponse_of_isSuccess url e hsuccess]
      exact ⟨_, rfl⟩
  | bodyBroken hsuccess =>
      rw [ofOutcome, ofResponse_of_isSuccess url e hsuccess]
      exact ⟨_, rfl⟩

end

/-! ## Parts of a record -/

variable {α : Type}

/-- A part of a record is read off one member: `tells` says what the member tells, and
`malformed` that it is not of the shape that it should have. -/
structure PartRead (part : Json → Except Failure α) (member : String)
    (tells : Option Json → α → Prop) (malformed : Option Json → Prop) : Prop where
  ok : ∀ {record a}, tells (record.get? member) a → part record = .ok a
  error : ∀ {record}, malformed (record.get? member) → ∃ cause, part record = .error cause
  /-- A member tells something unless it is malformed. -/
  total : ∀ v, (∃ a, tells v a) ∨ malformed v

/-- The exchange brought a record whose member tells a part. -/
def Told (member : String) (tells : Option Json → α → Prop) (o : Outcome) (a : α) : Prop :=
  ∃ record, Shows o record ∧ tells (record.get? member) a

/-- The exchange failed for good, or brought a record whose member is malformed. -/
def Fatal (member : String) (malformed : Option Json → Prop) (o : Outcome) : Prop :=
  Unusable o ∨ ∃ record, Shows o record ∧ malformed (record.get? member)

/-- A reader takes exchanges for what they are. -/
structure Reads (answer : Outcome → Except Failure (MirrorRecord α)) (told : Outcome → α → Prop)
    (fatal : Outcome → Prop) : Prop where
  of_transient : ∀ {o}, Transient o → ∃ r, answer o = .ok r ∧ r.value? = none
  of_told : ∀ {o a}, told o a → answer o = .ok (.found a)
  of_fatal : ∀ {o}, fatal o → ∃ cause, answer o = .error cause
  total : ∀ o, Transient o ∨ (∃ a, told o a) ∨ fatal o

/-- What is read of a part in the outcome of an exchange. -/
def partOf (part : Json → Except Failure α) (url : String) (e : Entity) (o : Outcome) :
    Except Failure (MirrorRecord α) :=
  (ofOutcome url e o).1.bind (partIn part)

theorem PartRead.reads {part : Json → Except Failure α} {member : String}
    {tells : Option Json → α → Prop} {malformed : Option Json → Prop}
    (h : PartRead part member tells malformed) (url : String) (e : Entity) :
    Reads (partOf part url e) (Told member tells) (Fatal member malformed) where
  of_transient := by
    intro o ho
    obtain ⟨r, hr, hvalue⟩ := ofOutcome_of_transient url e ho
    rw [partOf, hr]
    cases r with
    | notIndexed => exact ⟨.notIndexed, rfl, rfl⟩
    | unavailable reason => exact ⟨.unavailable reason, rfl, rfl⟩
    | found record => cases hvalue
  of_told := by
    rintro o a ⟨record, hshows, htells⟩
    rw [partOf, ofOutcome_of_shows url e hshows, Except.bind, partIn, h.ok htells]
    rfl
  of_fatal := by
    rintro o (hunusable | ⟨record, hshows, hmalformed⟩)
    · obtain ⟨cause, hcause⟩ := ofOutcome_of_unusable url e hunusable
      rw [partOf, hcause]
      exact ⟨cause, rfl⟩
    · obtain ⟨cause, hcause⟩ := h.error hmalformed
      rw [partOf, ofOutcome_of_shows url e hshows, Except.bind, partIn, hcause]
      exact ⟨cause, rfl⟩
  total := by
    intro o
    rcases transient_or o with htransient | ⟨record, hshows⟩ | hunusable
    · exact .inl htransient
    · rcases h.total (record.get? member) with ⟨a, htells⟩ | hmalformed
      · exact .inr (.inl ⟨a, record, hshows, htells⟩)
      · exact .inr (.inr (.inr ⟨record, hshows, hmalformed⟩))
    · exact .inr (.inr (.inl hunusable))

namespace Reads

variable {answer : Outcome → Except Failure (MirrorRecord α)} {told : Outcome → α → Prop}
  {fatal : Outcome → Prop} {o : Outcome}

theorem error_iff (h : Reads answer told fatal) :
    (∃ cause, answer o = .error cause) ↔ fatal o := by
  constructor
  · rintro ⟨cause, hcause⟩
    rcases h.total o with htransient | ⟨a, htold⟩ | hfatal
    · obtain ⟨r, hr, -⟩ := h.of_transient htransient
      rw [hr] at hcause
      cases hcause
    · rw [h.of_told htold] at hcause
      cases hcause
    · exact hfatal
  · exact h.of_fatal

theorem found_iff (h : Reads answer told fatal) {a : α} :
    answer o = .ok (.found a) ↔ told o a := by
  constructor
  · intro hfound
    rcases h.total o with htransient | ⟨b, htold⟩ | hfatal
    · obtain ⟨r, hr, hvalue⟩ := h.of_transient htransient
      rw [hfound] at hr
      cases hr
      cases hvalue
    · rw [h.of_told htold] at hfound
      cases hfound
      exact htold
    · obtain ⟨cause, hcause⟩ := h.of_fatal hfatal
      rw [hfound] at hcause
      cases hcause
  · exact h.of_told

theorem not_fatal_of_transient (h : Reads answer told fatal) (ho : Transient o) : ¬ fatal o := by
  intro hfatal
  obtain ⟨r, hr, -⟩ := h.of_transient ho
  obtain ⟨cause, hcause⟩ := h.of_fatal hfatal
  rw [hr] at hcause
  cases hcause

theorem not_told_of_transient (h : Reads answer told fatal) (ho : Transient o) (a : α) :
    ¬ told o a := by
  intro htold
  obtain ⟨r, hr, hvalue⟩ := h.of_transient ho
  rw [h.of_told htold] at hr
  cases hr
  cases hvalue

end Reads

/-! ## The fees of a token -/

/-- What the member of the fees tells. -/
inductive FeesMember : Option Json → MirrorFees → Prop where
  | absent : FeesMember none .empty
  | null : FeesMember (some .null) .empty
  | fees {v fees} (hne : v ≠ .null) (h : MirrorFees.ofJson v = .ok fees) :
      FeesMember (some v) fees

inductive MalformedFees : Option Json → Prop where
  | shape {v err} (hne : v ≠ .null) (h : MirrorFees.ofJson v = .error err) :
      MalformedFees (some v)

theorem partRead_feesIn (e : Entity) :
    PartRead (feesIn e) "custom_fees" FeesMember MalformedFees where
  ok := by
    intro record fees h
    rw [feesIn]
    generalize record.get? "custom_fees" = v at h
    cases h with
    | absent => rfl
    | null => rfl
    | fees hne hfees =>
        simp only [hfees]
        rfl
  error := by
    intro record h
    rw [feesIn]
    generalize record.get? "custom_fees" = v at h
    cases h with
    | shape hne herr =>
        simp only [herr]
        exact ⟨_, rfl⟩
  total := by
    intro v
    cases v with
    | none => exact .inl ⟨_, .absent⟩
    | some v =>
        by_cases hnull : v = .null
        · subst hnull
          exact .inl ⟨_, .null⟩
        · cases hfees : MirrorFees.ofJson v with
          | ok fees => exact .inl ⟨fees, .fees hnull hfees⟩
          | error err => exact .inr (.shape hnull hfees)

/-! ## Asking again and again -/

/-- Every question is one exchange, and asks for the record of the entity. -/
theorem follows_ask (m : RestMirror) (e : Entity) (outcomes : Nat → Outcome) :
    Follows (m.ask (.replay outcomes) e)
      (fun n => (ofOutcome (m.addressOf e).display e (outcomes n)).1)
      (Delivered (.get (m.addressOf e))) (Delivered (.get (m.addressOf e))) := by
  refine Act.follows_of_ofExcept ?_
  intro n s hs
  have hask : m.ask (.replay outcomes) e s
      = Act.ofExcept (ofOutcome (m.addressOf e).display e (outcomes (s.state.length + 1))).1
        ⟨s.state ++ [.get (m.addressOf e)],
          s.journal ++ [⟨.debug, "GET " ++ (m.addressOf e).display⟩] ++
            (ofOutcome (m.addressOf e).display e (outcomes (s.state.length + 1))).2⟩ := rfl
  rw [hs.length] at hask
  exact ⟨_, hask, hs.snoc⟩

theorem follows_fees (m : RestMirror) (token : String) (outcomes : Nat → Outcome) :
    Follows ((m.reader (.replay outcomes)).fees token)
      (fun n => partOf (feesIn (.token token)) (m.addressOf (.token token)).display
        (.token token) (outcomes n))
      (Delivered (.get (m.addressOf (.token token))))
      (Delivered (.get (m.addressOf (.token token)))) :=
  (follows_ask m (.token token) outcomes).reading (partIn (feesIn (.token token)))

theorem follows_key (m : RestMirror) (e : Entity) (outcomes : Nat → Outcome) :
    Follows ((m.reader (.replay outcomes)).key e)
      (fun n => partOf (keyIn e) (m.addressOf e).display e (outcomes n))
      (Delivered (.get (m.addressOf e))) (Delivered (.get (m.addressOf e))) :=
  (follows_ask m e outcomes).reading (partIn (keyIn e))

end RestMirror

end Concord
