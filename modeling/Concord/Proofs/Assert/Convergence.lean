import Concord.Proofs.Assert.Fees
import Concord.Proofs.Assert.Key
import Concord.Proofs.Fee.Indexing
import Concord.Proofs.Simulated.Mirror
import Concord.Proofs.Simulated.Node

/-!
# When assertions on simulated sides pass

A node shows a write at once, and a mirror withholds it for the polls of its outage and its lag.
An assertion about what both sides have been given passes when its budget reaches the first poll
behind them (`Delay.threshold`), and times out on what is said of a record that is withheld if
it does not (`Converges`).

* `Check.Awaits` says that a check agrees as soon as the mirror shows a record.  Where all
  answers of the consensus side are one and the answers of the mirror are those that are due, the
  number of the last probe follows (`Check.Awaits.lastProbe`), and so does what an assertion
  leaves behind (`expecting_converges`).
* The node and the mirror answer so, and a report that is withheld is read as such
  (`mirrorTree_due`).
* `verify_converges` says it of both assertions, through a client of the node.
-/

namespace Concord

open Act (Follows BothSound sideBySide readOff)
open Text

/-! ## Checks that wait for a record -/

/-- How the last answer of a mirror is shown, given the number of its poll. -/
def Delay.withheldText (d : Delay) (n : Nat) : String :=
  if n ≤ d.outage.toNat then "Unavailable(" ++ quoted outageText ++ ")" else "NotIndexed"

theorem Delay.shown_withheld {γ : Type} (d : Delay) (n : Nat) (f : γ → String) :
    (d.withheld n : MirrorRecord γ).shown f = d.withheldText n := by
  rw [withheld, withheldText]
  split <;> rfl

/-- What is left of an assertion about a record that the mirror withholds for some polls and
that both sides agree about: it ended in `o` after `polls` polls, and moved the clock from
`before` to `after`. -/
structure Converges (d : Delay) (b : Budget) (label consensus : String)
    (o : Except Failure Unit) (polls : Nat) (before after : Clock) : Prop where
  /-- It ended well exactly when the budget reaches the first poll that shows the record. -/
  ok_iff : o = .ok () ↔ d.threshold ≤ b.attempts
  /-- It polled up to that poll, or spent the budget. -/
  polls_eq : polls = min d.threshold b.attempts
  /-- The clock slept between two polls and nowhere else. -/
  clock : after = before.sleepTimes (polls - 1) b.interval
  /-- Otherwise it timed out on what the last poll was answered. -/
  timeout : o ≠ .ok () → o = .error (.timeout label b.attempts consensus
    (d.withheldText b.attempts))

section

variable {d : Delay} {b : Budget} (label consensus : String) (before : Clock)

theorem Converges.of_passed (h : d.threshold ≤ b.attempts) :
    Converges d b label consensus (.ok ()) d.threshold before
      (before.sleepTimes (d.threshold - 1) b.interval) where
  ok_iff := iff_of_true rfl h
  polls_eq := (Nat.min_eq_left h).symm
  clock := rfl
  timeout ho := absurd rfl ho

theorem Converges.of_spent (h : b.attempts < d.threshold) :
    Converges d b label consensus
      (.error (.timeout label b.attempts consensus (d.withheldText b.attempts))) b.attempts
      before (before.sleepTimes (b.attempts - 1) b.interval) where
  ok_iff := iff_of_false (by simp) (Nat.not_le.2 h)
  polls_eq := (Nat.min_eq_right (Nat.le_of_lt h)).symm
  clock := rfl
  timeout _ := rfl

end

theorem Converges.polls_le {d : Delay} {b : Budget} {label consensus : String}
    {o : Except Failure Unit} {polls : Nat} {before after : Clock}
    (h : Converges d b label consensus o polls before after) : polls ≤ b.attempts := by
  rw [h.polls_eq]
  exact Nat.min_le_right ..

namespace Check

variable {ω α γ : Type} {check : Check ω α (MirrorRecord γ)} {a : α} {y : γ} {d : Delay}
  {right : Nat → Except Failure (MirrorRecord γ)} {b : Budget}

/-- With what the consensus side reports a check agrees on a record, and on nothing else that is
said of the record before it is found. -/
structure Awaits (check : Check ω α (MirrorRecord γ)) (a : α) (y : γ) : Prop where
  found : check.agrees a (.found y) = true
  unavailable : ∀ reason, check.agrees a (.unavailable reason) = false
  notIndexed : check.agrees a .notIndexed = false

theorem Awaits.agrees_withheld (h : check.Awaits a y) (d : Delay) (j : Nat) :
    check.agrees a (d.withheld j) = false := by
  rw [Delay.withheld]
  split
  · exact h.unavailable outageText
  · exact h.notIndexed

/-- The last probe is the first that is due the record, if the budget reaches it. -/
theorem Awaits.lastProbe (h : check.Awaits a y)
    (hright : ∀ j ≤ b.attempts, right j = .ok (d.due j (some y))) :
    LastProbe check.agrees (sideBySide (fun _ => .ok a) right) 0 b.attempts
      (min d.threshold b.attempts) where
  done_lt := Nat.lt_min.2 ⟨Nat.succ_pos _, b.attempts_pos⟩
  le_limit := Nat.min_le_right ..
  earlier j h1 h2 := by
    obtain ⟨hlt, hle⟩ := Nat.lt_min.1 h2
    rw [sideBySide, hright j (Nat.le_of_lt hle), Delay.due_of_lt_threshold hlt]
    show check.agrees a (d.withheld j) ≠ true
    rw [h.agrees_withheld]
    exact Bool.false_ne_true
  ends := by
    rcases Nat.le_total d.threshold b.attempts with hle | hle
    · refine .inl ?_
      rw [Nat.min_eq_left hle, sideBySide, hright _ hle, Delay.due_of_threshold_le (Nat.le_refl _)]
      exact h.found
    · exact .inr (Nat.min_eq_right hle)

/-- A run that ends with that probe passes, or times out on a record that is withheld. -/
theorem Awaits.converges {shown : γ → String} {k : Nat} (h : check.Awaits a y)
    (hshown : check.shownMirror = MirrorRecord.shown shown)
    (hright : ∀ j ≤ b.attempts, right j = .ok (d.due j (some y)))
    (hk : k = min d.threshold b.attempts) (before : Clock) :
    Converges d b check.label (check.shownConsensus a)
      (check.verdict k (sideBySide (fun _ => .ok a) right k)) k before
      (before.sleepTimes (k - 1) b.interval) := by
  rcases Nat.lt_or_ge b.attempts d.threshold with hlt | hle
  · obtain rfl : k = b.attempts := hk.trans (Nat.min_eq_right (Nat.le_of_lt hlt))
    rw [sideBySide, hright _ (Nat.le_refl _), Delay.due_of_lt_threshold hlt]
    show Converges _ _ _ _ (check.verdict b.attempts (.ok (a, d.withheld b.attempts))) _ _ _
    rw [verdict_ok_of_not_agrees (h.agrees_withheld d _), hshown, Delay.shown_withheld]
    exact .of_spent _ _ before hlt
  · obtain rfl : k = d.threshold := hk.trans (Nat.min_eq_left hle)
    rw [sideBySide, hright _ hle, Delay.due_of_threshold_le (Nat.le_refl _)]
    show Converges _ _ _ _ (check.verdict d.threshold (.ok (a, .found y))) _ _ _
    rw [verdict_ok_of_agrees h.found]
    exact .of_passed _ _ before hle

end Check

/-! ## Assertions -/

section

variable {σ μ α γ : Type} {first : Act σ Failure α} {holds : α → Bool}
  {check : Check (σ × μ) α (MirrorRecord γ)} {a : α} {y : γ} {d : Delay}
  {right : Nat → Except Failure (MirrorRecord γ)} {atLeft : σ → Prop} {atRight : Nat → μ → Prop}
  {broken : Nat → σ × μ → Prop}

/-- An assertion on a consensus side that goes on to report what is expected, and a mirror that
answers what is due. -/
theorem expecting_converges (mismatch : α → Failure) {shown : γ → String} {budget : Budget}
    {c : σ} {m : μ}
    (hfirst : Follows first (fun _ => .ok a) (fun _ => atLeft) (fun _ => atLeft))
    (hprobe : Follows check.probe (sideBySide (fun _ => .ok a) right)
      (BothSound (fun _ => atLeft) atRight) broken)
    (hawaits : check.Awaits a y) (hshown : check.shownMirror = MirrorRecord.shown shown)
    (hbudget : check.budget = none) (hholds : holds a = true)
    (hright : ∀ j ≤ budget.attempts, right j = .ok (d.due j (some y)))
    (hc : atLeft c) (hm : atRight 0 m) (ctx : Context) (clock : Clock) (journal : List Record) :
    ∃ o c' m' polls after written,
      expecting first holds mismatch check ctx budget ⟨((c, m), clock), journal⟩
        = Act.ofExcept o ⟨((c', m'), after), written⟩ ∧
      atRight polls m' ∧
      Converges d budget check.label (check.shownConsensus a) o polls clock after := by
  obtain ⟨⟨c₁, early⟩, hact, hc₁⟩ := hfirst.ok (n := 0) (s := ⟨c, journal⟩) hc rfl
  obtain ⟨⟨⟨⟨c', m'⟩, after⟩, written⟩, k, hlast, hrun, hclock, hreached⟩ :=
    Check.run_follows hprobe ctx budget ⟨((c₁, m), clock), early⟩ ⟨hc₁, hm⟩
  rw [hbudget, Option.getD_none] at hlast hclock
  obtain rfl : after = _ := hclock
  have hk : k = min d.threshold budget.attempts := hlast.unique (hawaits.lastProbe hright)
  refine ⟨_, c', m', k, _, written, ?_, ?_, hawaits.converges hshown hright hk clock⟩
  · rw [expecting_ok (s := ⟨((c, m), clock), journal⟩) hact, if_pos hholds]
    exact hrun
  · rw [sideBySide, hright k hlast.le_limit] at hreached
    exact hreached.2

end

/-! ## Keys -/

/-- What the mirror answers is due to the tree of a key as it is to the key. -/
theorem mirrorTree_due {o : ObservedKey} {u : KeyTree} (h : o.tree = .ok u) (d : Delay) (j : Nat) :
    mirrorTree (d.due j (some (some o))) = .ok (d.due j (some (some u))) := by
  rcases Nat.lt_or_ge j d.threshold with hlt | hle
  · rw [Delay.due_of_lt_threshold hlt, Delay.due_of_lt_threshold hlt, Delay.withheld,
      Delay.withheld]
    split <;> rfl
  · rw [Delay.due_of_threshold_le hle, Delay.due_of_threshold_le hle, mirrorTree, treeOf_ok h]
    rfl

theorem readOff_mirrorTree {o : ObservedKey} {u : KeyTree} (h : o.tree = .ok u) (d : Delay)
    {j : Nat} (hj : j < 2 ^ 32) :
    readOff mirrorTree (fun j => .ok (d.answer (.ofNat j) (some (some o)))) j
      = .ok (d.due j (some (some u))) := by
  rw [readOff, d.answer_ofNat hj]
  exact mirrorTree_due h d j

/-- Both sides have the key of an entity: the node reports a text of its tree, and the mirror,
which has not been polled for it, a key whose tree agrees. -/
structure KeyShared (n : Node) (m : LaggingMirror) (e : Entity) (text : String) (t : KeyTree) :
    Prop where
  decode : KeyTree.decode text = .ok t
  /-- The node reports the text. -/
  reported : n.ReportsKey e text
  /-- The mirror has not been polled for the key. -/
  unpolled : m.keys.pollsOf e = 0
  /-- The mirror holds a key. -/
  held : ∃ o u, m.keys.records.get? e = some (some o) ∧ o.tree = .ok u ∧ t.agrees u = true

theorem awaits_keyCheck {σ μ : Type} {c : ConsensusReader σ} {m : MirrorReader μ} {ctx : Context}
    {e : Entity} {t u : KeyTree} (h : t.agrees u = true) :
    (keyCheck c m ctx e t).Awaits (some t) (some u) where
  found := keysAgree_iff.2 ⟨.key t.agrees_refl, some u, rfl, .key h⟩
  unavailable _ := Bool.and_false _
  notIndexed := Bool.and_false _

section

variable {ctx : Context} {budget : Budget} {c : Rpc.Client Node} {m : LaggingMirror}

theorem KeyShared.converges {e : Entity} {text : String} {t : KeyTree}
    (h : KeyShared c.link m e text t) (ctx : Context) (hbudget : budget.attempts < 2 ^ 32)
    (clock : Clock) (journal : List Record) :
    ∃ o c' polls after written,
      verifyKey (.ofClient Node.transport) LaggingMirror.reader ctx budget e text
          ⟨((c, m), clock), journal⟩
        = Act.ofExcept o ⟨((c', m.pollKeyTimes e polls), after), written⟩ ∧
      ((m.pollKeyTimes e polls).keys.pollsOf e).toNat = polls ∧
      Converges m.delay budget (e.display ++ " key") (shownTree? (some t)) o polls clock
        after := by
  obtain ⟨o, u, hrecord, htree, hagrees⟩ := h.held
  have hfirst := (Node.follows_key ctx e text).reading consensusTree
  -- Every answer of the node is read as the same tree.
  have hconst : readOff consensusTree (fun _ => .ok (some text)) = fun _ => .ok (some t) :=
    funext fun _ => treeOf_ok h.decode
  rw [hconst] at hfirst
  have hpolled : m.keys.Polled e 0 (some (some o)) := ⟨h.unpolled, hrecord⟩
  have hsecond := (LaggingMirror.follows_key hpolled).reading mirrorTree
  have hawaits : (keyCheck (.ofClient Node.transport) LaggingMirror.reader ctx e t).Awaits
      (some t) (some u) := awaits_keyCheck hagrees
  have hholds : keyExpected t (some t) = true := t.agrees_refl
  obtain ⟨out, c', m', polls, after, written, hrun, rfl, hconverges⟩ :=
    expecting_converges (fun observed => .plain (keyMismatchText e observed t)) hfirst
      (hfirst.both hsecond) hawaits rfl rfl hholds
      (fun j hj => readOff_mirrorTree htree m.delay (Nat.lt_of_le_of_lt hj hbudget))
      h.reported rfl ctx clock journal
  have hfew : polls < 2 ^ 32 := Nat.lt_of_le_of_lt (hconverges.polls_le) hbudget
  refine ⟨out, c', polls, after, written, ?_, (hpolled.countTimes polls).toNat_polls hfew,
    hconverges⟩
  rw [verifyKey_of_decode h.decode]
  exact hrun

end

/-! ## Fees -/

/-- Both sides have the fees of a token: the node reports them, and the mirror, which has not
been polled for them, holds what it makes of them. -/
structure FeesShared (n : Node) (m : LaggingMirror) (token : String) (fees : List CustomFee) :
    Prop where
  /-- The node reports the fees. -/
  reported : n.ReportsFees token fees
  /-- The mirror has not been polled for the fees. -/
  unpolled : m.fees.pollsOf token = 0
  /-- The mirror holds the fees. -/
  held : m.fees.records.get? token = some (.ofFees token fees)

theorem sameFees_refl (fees : List CustomFee) : sameFees fees fees = true :=
  sameFees_iff_perm.2 (.refl _)

theorem awaits_feesCheck {σ μ : Type} {c : ConsensusReader σ} {m : MirrorReader μ} {ctx : Context}
    (token : String) (fees : List CustomFee) :
    (feesCheck c m ctx token fees).Awaits fees (.ofFees token fees) where
  found := by
    have hindexed := MirrorFees.canonical_entries_ofFees token fees
    exact schedulesAgree_iff.2
      ⟨sameFees_refl fees, .ofFees token fees, rfl, feesAgree_iff_perm.2 hindexed.symm⟩
  unavailable _ := Bool.and_false _
  notIndexed := Bool.and_false _

section

variable {budget : Budget} {c : Rpc.Client Node} {m : LaggingMirror}

theorem FeesShared.converges {token : String} {fees : List CustomFee}
    (h : FeesShared c.link m token fees) (ctx : Context) (hbudget : budget.attempts < 2 ^ 32)
    (clock : Clock) (journal : List Record) :
    ∃ o c' polls after written,
      verifyFees (.ofClient Node.transport) LaggingMirror.reader ctx budget token fees
          ⟨((c, m), clock), journal⟩
        = Act.ofExcept o ⟨((c', m.pollFeesTimes token polls), after), written⟩ ∧
      ((m.pollFeesTimes token polls).fees.pollsOf token).toNat = polls ∧
      Converges m.delay budget ("token " ++ token ++ " custom fees") (shownFees fees) o polls
        clock after := by
  have hfirst := Node.follows_fees ctx token fees
  have hpolled : m.fees.Polled token 0 (some (.ofFees token fees)) := ⟨h.unpolled, h.held⟩
  have hsecond := LaggingMirror.follows_fees hpolled
  have hawaits : (feesCheck (.ofClient Node.transport) LaggingMirror.reader ctx token
      fees).Awaits fees (.ofFees token fees) := awaits_feesCheck token fees
  obtain ⟨out, c', m', polls, after, written, hrun, rfl, hconverges⟩ :=
    expecting_converges (fun observed => .plain (feesMismatchText token observed fees)) hfirst
      (hfirst.both hsecond) hawaits rfl rfl (sameFees_refl fees)
      (fun j hj => congrArg Except.ok (m.delay.answer_ofNat (Nat.lt_of_le_of_lt hj hbudget) _))
      h.reported rfl ctx clock journal
  have hfew : polls < 2 ^ 32 := Nat.lt_of_le_of_lt (hconverges.polls_le) hbudget
  refine ⟨out, c', polls, after, written, ?_, (hpolled.countTimes polls).toNat_polls hfew,
    hconverges⟩
  rw [verifyFees_eq_expecting]
  exact hrun

end

/-! ## Both assertions -/

/-- What both sides have been given is verified exactly when the budget reaches the first poll
for which the mirror does not withhold it, and otherwise ends in a timeout.  That many polls are
made, of that record alone, or as many as the budget allows, and the clock sleeps between
them.  The budget counts its probes in 32 bits, as the mirror counts its polls. -/
theorem verify_converges (ctx : Context) (budget : Budget) (hbudget : budget.attempts < 2 ^ 32)
    (c : Rpc.Client Node) (m : LaggingMirror) (clock : Clock) (journal : List Record) :
    (∀ e text t, KeyShared c.link m e text t →
      ∃ o c' polls after written,
        verifyKey (.ofClient Node.transport) LaggingMirror.reader ctx budget e text
            ⟨((c, m), clock), journal⟩
          = Act.ofExcept o ⟨((c', m.pollKeyTimes e polls), after), written⟩ ∧
        ((m.pollKeyTimes e polls).keys.pollsOf e).toNat = polls ∧
        Converges m.delay budget (e.display ++ " key") (shownTree? (some t)) o polls clock
          after) ∧
    ∀ token fees, FeesShared c.link m token fees →
      ∃ o c' polls after written,
        verifyFees (.ofClient Node.transport) LaggingMirror.reader ctx budget token fees
            ⟨((c, m), clock), journal⟩
          = Act.ofExcept o ⟨((c', m.pollFeesTimes token polls), after), written⟩ ∧
        ((m.pollFeesTimes token polls).fees.pollsOf token).toNat = polls ∧
        Converges m.delay budget ("token " ++ token ++ " custom fees") (shownFees fees) o polls
          clock after :=
  ⟨fun _ _ _ h => h.converges ctx hbudget clock journal,
    fun _ _ h => h.converges ctx hbudget clock journal⟩

/-- Behind an outage and a lag of one poll each the third poll is the first that shows what both
sides have been given. -/
theorem verify_converges_in_three :
    ∃ node mirror,
      (∃ c after written,
        verifyKey (.ofClient Node.transport) LaggingMirror.reader ⟨"tck", none⟩
            ⟨3, .ofMillis 1000, by decide⟩ ⟨.account, "0.0.7"⟩ "3200"
            ⟨((.fresh node, mirror), Clock.fresh), []⟩
          = .ok () ⟨((c, mirror.pollKeyTimes ⟨.account, "0.0.7"⟩ 3), after), written⟩) ∧
      ∃ c after written,
        verifyFees (.ofClient Node.transport) LaggingMirror.reader ⟨"tck", none⟩
            ⟨3, .ofMillis 1000, by decide⟩ "0.0.9" [.fixed "0.0.5" 1 none]
            ⟨((.fresh node, mirror), Clock.fresh), []⟩
          = .ok () ⟨((c, mirror.pollFeesTimes "0.0.9" 3), after), written⟩ := by
  obtain ⟨hkeys, hfees⟩ := verify_converges ⟨"tck", none⟩ ⟨3, .ofMillis 1000, by decide⟩ (by decide)
    (.fresh (((Node.ofSeed 1).setKey ⟨.account, "0.0.7"⟩ "3200").setFees "0.0.9"
      [.fixed "0.0.5" 1 none]))
    (((LaggingMirror.fresh ⟨1, 1⟩).setKey ⟨.account, "0.0.7"⟩
      (some ⟨ObservedKey.compositeType, "3200"⟩)).setFees "0.0.9" [.fixed "0.0.5" 1 none])
    .fresh []
  obtain ⟨o, c, polls, after, written, hkey, -, hconverges⟩ :=
    hkeys ⟨.account, "0.0.7"⟩ "3200" (.list none [])
      ⟨by decide, ⟨List.not_mem_nil, rfl⟩, rfl, _, .list none [], rfl, by decide, by decide⟩
  obtain ⟨o', c', polls', after', written', hfee, -, hconverges'⟩ :=
    hfees "0.0.9" [.fixed "0.0.5" 1 none] ⟨⟨List.not_mem_nil, rfl⟩, rfl, rfl⟩
  obtain rfl := hconverges.ok_iff.2 (by decide)
  obtain rfl := hconverges.polls_eq
  obtain rfl := hconverges'.ok_iff.2 (by decide)
  obtain rfl := hconverges'.polls_eq
  exact ⟨_, _, ⟨c, after, written, hkey⟩, c', after', written', hfee⟩

end Concord
