import Concord.Assert.Fees
import Concord.Proofs.Assert.Replay
import Concord.Proofs.Fee.Canonical

/-!
# The assertion about the fees of a token

A probe compares the fees of the consensus side with the expected ones and those of the
mirror with those of the consensus side.  Since both comparisons are comparisons of
canonical forms, it is the expected fees that a good probe sees on both sides
(`schedulesAgree_iff`).  An assertion that passes has made such a probe
(`verifyFees_settled`).
-/

namespace Concord

open Act (Follows Counts BothSound BothBroken sideBySide)

/-! ## The expected fees -/

/-- Both sides have the expected fees in probe number `j`. -/
def FeesCarried (expected : List CustomFee) (fees : Nat → Except Failure (List CustomFee))
    (schedules : Nat → Except Failure (MirrorRecord MirrorFees)) (j : Nat) : Prop :=
  ∃ c m, fees (j + 1) = .ok c ∧ schedules j = .ok (.found m) ∧
    sameFees expected c = true ∧ feesAgree expected m = true

theorem schedulesAgree_iff {expected c : List CustomFee} {m : MirrorRecord MirrorFees} :
    schedulesAgree expected c m = true ↔ sameFees expected c = true ∧
      ∃ schedule, m = .found schedule ∧ feesAgree expected schedule = true := by
  cases m with
  | notIndexed => simp [schedulesAgree]
  | unavailable reason => simp [schedulesAgree]
  | found schedule =>
      rw [schedulesAgree, Bool.and_eq_true]
      constructor
      · rintro ⟨hsame, hagree⟩
        exact ⟨hsame, schedule, rfl, (feesAgree_iff_of_sameFees hsame schedule).2 hagree⟩
      · rintro ⟨hsame, schedule', heq, hagree⟩
        obtain rfl : schedule = schedule' := MirrorRecord.found.inj heq
        exact ⟨hsame, (feesAgree_iff_of_sameFees hsame schedule).1 hagree⟩

section

variable {expected : List CustomFee} {fees : Nat → Except Failure (List CustomFee)}
  {schedules : Nat → Except Failure (MirrorRecord MirrorFees)}

theorem good_iff_feesCarried {j : Nat} :
    Check.Good (schedulesAgree expected) fees schedules j ↔
      FeesCarried expected fees schedules j := by
  constructor
  · rintro ⟨c, record, hc, hrecord, hagree⟩
    obtain ⟨hsame, m, rfl, hmirror⟩ := schedulesAgree_iff.1 hagree
    exact ⟨c, m, hc, hrecord, hsame, hmirror⟩
  · rintro ⟨c, m, hc, hm, hsame, hmirror⟩
    exact ⟨c, .found m, hc, hm, schedulesAgree_iff.2 ⟨hsame, m, rfl, hmirror⟩⟩

end

/-! ## The assertion -/

theorem follows_feesCheck (expected : List CustomFee)
    (keys : Context → Entity → Nat → Except Failure (Option String))
    (fees : Context → String → Nat → Except Failure (List CustomFee))
    (reports : Entity → Nat → Except Failure (MirrorRecord (Option ObservedKey)))
    (schedules : String → Nat → Except Failure (MirrorRecord MirrorFees)) (ctx : Context)
    (token : String) :
    Follows
      (feesCheck (.replay keys fees) (.replay reports schedules) ctx token expected).probe
      (sideBySide (fees ctx token) (schedules token)) (BothSound Counts Counts)
      (BothBroken (fees ctx token) Counts Counts) :=
  (Act.follows_replay (fees ctx token)).both (Act.follows_replay (schedules token))

theorem verifyFees_eq_expecting {σ μ : Type} (c : ConsensusReader σ) (m : MirrorReader μ)
    (ctx : Context) (budget : Budget) (token : String) (expected : List CustomFee) :
    verifyFees c m ctx budget token expected
      = expecting (c.fees ctx token) (sameFees expected)
        (fun observed => .plain (feesMismatchText token observed expected))
        (feesCheck c m ctx token expected) ctx budget := by
  rw [verifyFees, Clock.beside_eq_within]
  rfl

/-- What is left of the assertion that a token has a schedule of fees, for every expected
schedule and every sequence of answers of either side.  It passes exactly when the first
answer of the consensus side has the expected fees and a probe is made in which both sides
have them. -/
theorem verifyFees_settled (keys : Context → Entity → Nat → Except Failure (Option String))
    (fees : Context → String → Nat → Except Failure (List CustomFee))
    (reports : Entity → Nat → Except Failure (MirrorRecord (Option ObservedKey)))
    (schedules : String → Nat → Except Failure (MirrorRecord MirrorFees)) (ctx : Context)
    (budget : Budget) (token : String) (expected : List CustomFee) (clock : Clock)
    (journal : List Record) :
    ∃ o reads polls after written,
      verifyFees (.replay keys fees) (.replay reports schedules) ctx budget token expected
          ⟨((0, 0), clock), journal⟩
        = Act.ofExcept o ⟨((reads, polls), after), written⟩ ∧
      Settled (∃ c, fees ctx token 1 = .ok c ∧ sameFees expected c = true)
        (FeesCarried expected (fees ctx token) (schedules token))
        (fun n cause => fees ctx token n = .error cause)
        (fun n cause => schedules token n = .error cause)
        ("token " ++ token ++ " custom fees") budget o reads polls clock after := by
  obtain ⟨o, reads, polls, after, written, hrun, hsettled⟩ :=
    expecting_settledBy (sameFees expected)
      (fun observed => .plain (feesMismatchText token observed expected))
      (Act.follows_replay (fees ctx token))
      (follows_feesCheck expected keys fees reports schedules ctx token)
      ctx budget clock journal
  have hgood : Check.Good (schedulesAgree expected) (fees ctx token) (schedules token)
      = FeesCarried expected (fees ctx token) (schedules token) :=
    funext fun j => propext good_iff_feesCarried
  refine ⟨o, reads, polls, after, written, ?_, ?_⟩
  · rw [verifyFees_eq_expecting]
    exact hrun
  · rw [← hgood]
    exact hsettled

end Concord
