import Concord.Proofs.Settings.Validity
import Concord.Proofs.Text.Spelling
import Concord.Proofs.Yaml.Document
import Concord.Settings.Written
import Mathlib.Data.List.Nodup

/-!
# Settings that are read from lines

Some lines give settings when each field has a line at most, with a value of its kind (`Gives`).  A
field without a line has its standard value, and a line that has the name of no field does not
matter; nor does the order of the lines (`parse?_linesText_of_perm`).

A text of lines is read as the settings that its lines give, and as none if they give none
(`parse?_linesText_eq_some_iff`).  Reading it ends in these settings if they are valid, and in their
first violation if they are not (`ofYaml_linesText_eq_iff`).  All settings can be written in lines,
so all are read back (`parse?_linesText_lines`), and of any text only valid settings are read
(`validate_of_ofYaml`).
-/

namespace Concord.Settings

open Text
open Yaml (Line Value linesChars linesDocument)

/-! ## What lines give -/

/-- What some lines give to a field: the value of the one line with its name, or what the absence
of such a line stands for. -/
inductive Given {α : Type} (ls : List Line) (name : String) (Reads : Value → α → Prop)
    (absent : α) : α → Prop where
  | absent (h : ∀ l ∈ ls, l.name.text ≠ name) : Given ls name Reads absent absent
  | once {l : Line} {a : α} (hmem : l ∈ ls) (hname : l.name.text = name)
      (honce : (ls.map fun l => l.name.text).count name = 1) (h : Reads l.value a) :
      Given ls name Reads absent a

/-- Lines give settings: each field has a line at most, with a value of its kind. -/
structure Gives (ls : List Line) (s : Settings) : Prop where
  rpcUrl : Given ls "rpc_url" (fun v a => v.text = a) standard.rpcUrl s.rpcUrl
  mirrorUrl : Given ls "mirror_url" (fun v a => v.text = a) standard.mirrorUrl s.mirrorUrl
  requestTimeout : Given ls "request_timeout_secs" (fun v n => v.Denotes n.toNat)
    standard.requestTimeout s.requestTimeout
  connectionTimeout : Given ls "connection_timeout_secs" (fun v n => v.Denotes n.toNat)
    standard.connectionTimeout s.connectionTimeout
  mirrorTimeout : Given ls "mirror_timeout_secs" (fun v n => v.Denotes n.toNat)
    standard.mirrorTimeout s.mirrorTimeout
  attempts : Given ls "consistency_attempts" (fun v n => v.Denotes n.toNat)
    standard.attempts s.attempts
  interval : Given ls "consistency_interval_ms" (fun v n => v.Denotes n.toNat)
    standard.interval s.interval
  operatorAccount : Given ls "operator_account_id" (fun v a => v.optionalText = a) none
    s.operatorAccount
  operatorKey : Given ls "operator_private_key" (fun v a => v.optionalText = a) none s.operatorKey
  nodeIp : Given ls "node_ip" (fun v a => v.optionalText = a) none s.nodeIp
  nodeAccount : Given ls "node_account_id" (fun v a => v.optionalText = a) none s.nodeAccount
  mirrorIp : Given ls "mirror_network_ip" (fun v a => v.optionalText = a) none s.mirrorIp

section

variable {α : Type} {ls : List Line} {Reads : Value → α → Prop} {read : Yaml.Node → Option α}
  {absent a : α}

theorem member?_eq_some_iff (f : Json.RecordField α)
    (hread : ∀ v a, read (Value.node v) = some a ↔ Reads v a) :
    member? (ls.map fun l => (l.name.text, l.value.node)) f absent read = some a ↔
      Given ls f.name Reads absent a := by
  obtain ⟨hits, hhits⟩ : ∃ hits, ls.filter (fun l => l.name.text = f.name) = hits := ⟨_, rfl⟩
  have hmem : ∀ l, l ∈ hits ↔ l ∈ ls ∧ l.name.text = f.name := by
    intro l
    rw [← hhits]
    simp
  have hcount : (ls.map fun l => l.name.text).count f.name = hits.length := by
    rw [← hhits, List.count, List.countP_map, List.countP_eq_length_filter]
    rfl
  have hnodes : ((ls.map fun l => (l.name.text, l.value.node)).filter
      fun m => m.1 = f.name).map Prod.snd = hits.map fun l => l.value.node := by
    rw [← hhits, List.filter_map, List.map_map]
    rfl
  rw [member?, hnodes]
  constructor
  · intro h
    rcases hits with _ | ⟨l, _ | ⟨m, hits⟩⟩
    · obtain rfl : absent = a := Option.some.inj h
      exact .absent fun l hl hname => absurd ((hmem l).2 ⟨hl, hname⟩) List.not_mem_nil
    · obtain ⟨hl, hname⟩ := (hmem l).1 List.mem_cons_self
      exact .once hl hname hcount ((hread _ _).1 h)
    · cases h
  · intro h
    cases h with
    | absent hnone =>
        have hnil : hits = [] := by
          refine List.eq_nil_iff_forall_not_mem.2 fun l hl => ?_
          exact hnone l ((hmem l).1 hl).1 ((hmem l).1 hl).2
        rw [hnil]
        rfl
    | @once l _ hl hname honce h =>
        obtain ⟨m, hm⟩ := List.length_eq_one_iff.1 (hcount.symm.trans honce)
        obtain rfl : l = m := by simpa [hm] using (hmem l).2 ⟨hl, hname⟩
        rw [hm]
        exact (hread _ _).2 h

variable {d : Yaml.Document}

theorem member?_text?_eq_some_iff (f : Json.RecordField String) {absent a : String} :
    member? (ls.map fun l => (l.name.text, l.value.node)) f absent d.text? = some a ↔
      Given ls f.name (fun v a => v.text = a) absent a :=
  member?_eq_some_iff f fun v a => by rw [Yaml.Document.text?_node, Option.some.injEq]

theorem member?_optionalText?_eq_some_iff (f : Json.RecordField (Option String))
    {absent a : Option String} :
    member? (ls.map fun l => (l.name.text, l.value.node)) f absent d.optionalText? = some a ↔
      Given ls f.name (fun v a => v.optionalText = a) absent a :=
  member?_eq_some_iff f fun v a => by rw [Yaml.Document.optionalText?_node, Option.some.injEq]

/-- A number is read from the values that denote it, where all numbers up to the limit have the
width. -/
theorem member?_natural?_eq_some_iff {limit : Nat} {narrow : Nat → α} {wide : α → Nat}
    (f : Json.RecordField α) (hwide : ∀ a, narrow (wide a) = a)
    (hnarrow : ∀ n ≤ limit, wide (narrow n) = n) (hle : ∀ a, wide a ≤ limit) :
    member? (ls.map fun l => (l.name.text, l.value.node)) f absent
        (fun n => (d.natural? limit n).map narrow) = some a ↔
      Given ls f.name (fun v a => v.Denotes (wide a)) absent a := by
  refine member?_eq_some_iff f fun v a => ?_
  rw [Option.map_eq_some_iff]
  constructor
  · rintro ⟨n, hn, rfl⟩
    obtain ⟨hdenotes, hn⟩ := Yaml.Document.natural?_node_eq_some_iff.1 hn
    rwa [hnarrow n hn]
  · intro h
    exact ⟨wide a, Yaml.Document.natural?_node_eq_some_iff.2 ⟨h, hle a⟩, hwide a⟩

theorem member?_natural64_eq_some_iff (f : Json.RecordField UInt64) {absent a : UInt64} :
    member? (ls.map fun l => (l.name.text, l.value.node)) f absent
        (fun n => (d.natural? maxUnsigned64 n).map UInt64.ofNat) = some a ↔
      Given ls f.name (fun v n => v.Denotes n.toNat) absent a :=
  member?_natural?_eq_some_iff f (fun _ => UInt64.ofNat_toNat)
    (fun _ hn => UInt64.toNat_ofNat_of_lt' (Nat.lt_succ_of_le hn))
    (fun a => Nat.le_of_lt_succ a.toNat_lt)

theorem member?_natural32_eq_some_iff (f : Json.RecordField UInt32) {absent a : UInt32} :
    member? (ls.map fun l => (l.name.text, l.value.node)) f absent
        (fun n => (d.natural? maxUnsigned32 n).map UInt32.ofNat) = some a ↔
      Given ls f.name (fun v n => v.Denotes n.toNat) absent a :=
  member?_natural?_eq_some_iff f (fun _ => UInt32.ofNat_toNat)
    (fun _ hn => UInt32.toNat_ofNat_of_lt' (Nat.lt_succ_of_le hn))
    (fun a => Nat.le_of_lt_succ a.toNat_lt)

end

section

variable {ls : List Line} {s : Settings}

/-- The settings of a document of lines are those that the lines give. -/
theorem ofDocument?_linesDocument_eq_some_iff :
    ofDocument? (linesDocument ls) = some s ↔ Gives ls s := by
  unfold ofDocument?
  rw [Yaml.Document.members?_linesDocument]
  constructor
  · intro h
    obtain ⟨_, hmembers, h⟩ := Option.bind_eq_some_iff.1 h
    obtain rfl := Option.some.inj hmembers
    obtain ⟨_, hRpcUrl, h⟩ := Option.bind_eq_some_iff.1 h
    obtain ⟨_, hMirrorUrl, h⟩ := Option.bind_eq_some_iff.1 h
    obtain ⟨_, hRequestTimeout, h⟩ := Option.bind_eq_some_iff.1 h
    obtain ⟨_, hConnectionTimeout, h⟩ := Option.bind_eq_some_iff.1 h
    obtain ⟨_, hMirrorTimeout, h⟩ := Option.bind_eq_some_iff.1 h
    obtain ⟨_, hAttempts, h⟩ := Option.bind_eq_some_iff.1 h
    obtain ⟨_, hInterval, h⟩ := Option.bind_eq_some_iff.1 h
    obtain ⟨_, hOperatorAccount, h⟩ := Option.bind_eq_some_iff.1 h
    obtain ⟨_, hOperatorKey, h⟩ := Option.bind_eq_some_iff.1 h
    obtain ⟨_, hNodeIp, h⟩ := Option.bind_eq_some_iff.1 h
    obtain ⟨_, hNodeAccount, h⟩ := Option.bind_eq_some_iff.1 h
    obtain ⟨_, hMirrorIp, h⟩ := Option.bind_eq_some_iff.1 h
    obtain rfl := Option.some.inj h
    exact {
      rpcUrl := (member?_text?_eq_some_iff _).1 hRpcUrl
      mirrorUrl := (member?_text?_eq_some_iff _).1 hMirrorUrl
      requestTimeout := (member?_natural64_eq_some_iff _).1 hRequestTimeout
      connectionTimeout := (member?_natural64_eq_some_iff _).1 hConnectionTimeout
      mirrorTimeout := (member?_natural64_eq_some_iff _).1 hMirrorTimeout
      attempts := (member?_natural32_eq_some_iff _).1 hAttempts
      interval := (member?_natural64_eq_some_iff _).1 hInterval
      operatorAccount := (member?_optionalText?_eq_some_iff _).1 hOperatorAccount
      operatorKey := (member?_optionalText?_eq_some_iff _).1 hOperatorKey
      nodeIp := (member?_optionalText?_eq_some_iff _).1 hNodeIp
      nodeAccount := (member?_optionalText?_eq_some_iff _).1 hNodeAccount
      mirrorIp := (member?_optionalText?_eq_some_iff _).1 hMirrorIp }
  · intro h
    refine Option.bind_eq_some_iff.2 ⟨_, rfl, ?_⟩
    refine Option.bind_eq_some_iff.2 ⟨_, (member?_text?_eq_some_iff _).2 h.rpcUrl, ?_⟩
    refine Option.bind_eq_some_iff.2 ⟨_, (member?_text?_eq_some_iff _).2 h.mirrorUrl, ?_⟩
    refine Option.bind_eq_some_iff.2 ⟨_, (member?_natural64_eq_some_iff _).2 h.requestTimeout, ?_⟩
    refine Option.bind_eq_some_iff.2
      ⟨_, (member?_natural64_eq_some_iff _).2 h.connectionTimeout, ?_⟩
    refine Option.bind_eq_some_iff.2 ⟨_, (member?_natural64_eq_some_iff _).2 h.mirrorTimeout, ?_⟩
    refine Option.bind_eq_some_iff.2 ⟨_, (member?_natural32_eq_some_iff _).2 h.attempts, ?_⟩
    refine Option.bind_eq_some_iff.2 ⟨_, (member?_natural64_eq_some_iff _).2 h.interval, ?_⟩
    refine Option.bind_eq_some_iff.2
      ⟨_, (member?_optionalText?_eq_some_iff _).2 h.operatorAccount, ?_⟩
    refine Option.bind_eq_some_iff.2 ⟨_, (member?_optionalText?_eq_some_iff _).2 h.operatorKey, ?_⟩
    refine Option.bind_eq_some_iff.2 ⟨_, (member?_optionalText?_eq_some_iff _).2 h.nodeIp, ?_⟩
    refine Option.bind_eq_some_iff.2 ⟨_, (member?_optionalText?_eq_some_iff _).2 h.nodeAccount, ?_⟩
    refine Option.bind_eq_some_iff.2 ⟨_, (member?_optionalText?_eq_some_iff _).2 h.mirrorIp, ?_⟩
    rfl

/-! ## Texts of lines -/

/-- The text of some lines. -/
def linesText (ls : List Line) : String := String.ofList (linesChars ls)

theorem trimBlanks_linesChars_ne_nil (line : Line) (ls : List Line) :
    trimBlanks (linesChars (line :: ls)) ≠ [] := by
  obtain ⟨x, xs, hx⟩ := List.exists_cons_of_ne_nil line.name.ne_nil
  have hblank : isBlank x = false :=
    (line.name.isGraphic x (by simp [hx])).of_forall (p := fun x => isBlank x = false) (by decide)
  have hmem : x ∈ linesChars (line :: ls) := by simp [linesChars, Line.chars, hx]
  obtain ⟨before, after, hcs, hbefore, hafter⟩ := exists_eq_trimBlanks (linesChars (line :: ls))
  intro hnil
  rw [hcs, hnil, List.append_nil] at hmem
  rcases List.mem_append.1 hmem with h | h
  · rw [hbefore x h] at hblank
    cases hblank
  · rw [hafter x h] at hblank
    cases hblank

/-- A text of lines gives the settings that its lines give, and none if they give none. -/
theorem parse?_linesText_eq_some_iff : parse? (linesText ls) = some s ↔ Gives ls s := by
  rw [← ofDocument?_linesDocument_eq_some_iff, parse?, linesText, String.toList_ofList]
  cases ls with
  | nil => exact Iff.rfl
  | cons line ls =>
      rw [if_neg (trimBlanks_linesChars_ne_nil line ls), Yaml.Document.ofText?_linesChars,
        Option.bind_some]

end

/-! ## The order of lines -/

section

variable {ls ms : List Line} {s : Settings}

theorem Given.perm {α : Type} {Reads : Value → α → Prop} {name : String} {absent a : α}
    (hperm : ls.Perm ms) (h : Given ls name Reads absent a) : Given ms name Reads absent a := by
  cases h with
  | absent hnone => exact .absent fun l hl => hnone l (hperm.mem_iff.2 hl)
  | once hmem hname honce h =>
      exact .once (hperm.mem_iff.1 hmem) hname ((hperm.map _).count_eq name ▸ honce) h

theorem Gives.perm (hperm : ls.Perm ms) (h : Gives ls s) : Gives ms s where
  rpcUrl := h.rpcUrl.perm hperm
  mirrorUrl := h.mirrorUrl.perm hperm
  requestTimeout := h.requestTimeout.perm hperm
  connectionTimeout := h.connectionTimeout.perm hperm
  mirrorTimeout := h.mirrorTimeout.perm hperm
  attempts := h.attempts.perm hperm
  interval := h.interval.perm hperm
  operatorAccount := h.operatorAccount.perm hperm
  operatorKey := h.operatorKey.perm hperm
  nodeIp := h.nodeIp.perm hperm
  nodeAccount := h.nodeAccount.perm hperm
  mirrorIp := h.mirrorIp.perm hperm

theorem parse?_linesText_of_perm (hperm : ls.Perm ms) :
    parse? (linesText ls) = parse? (linesText ms) := by
  refine Option.ext fun s => ?_
  rw [parse?_linesText_eq_some_iff, parse?_linesText_eq_some_iff]
  exact ⟨.perm hperm, .perm hperm.symm⟩

end

/-! ## Reading settings -/

section

variable {ls : List Line} {s : Settings}

/-- How reading the settings of some lines ends. -/
inductive ReadFrom (ls : List Line) : Except WrittenSettingsError Settings → Prop where
  | valid {s : Settings} (h : Gives ls s) (hvalid : s.validate = .ok ()) : ReadFrom ls (.ok s)
  | invalid {s : Settings} {e : SettingsError} (h : Gives ls s) (hvalid : s.validate = .error e) :
      ReadFrom ls (.error (.invalid e))
  | malformed (h : ∀ s, ¬ Gives ls s) : ReadFrom ls (.error .malformed)

/-- Lines give no two settings, since they are read as those that they give. -/
theorem Gives.unique {s₁ s₂ : Settings} (h₁ : Gives ls s₁) (h₂ : Gives ls s₂) : s₁ = s₂ := by
  have hread := parse?_linesText_eq_some_iff.2 h₁
  rw [parse?_linesText_eq_some_iff.2 h₂] at hread
  exact (Option.some.inj hread).symm

theorem ofYaml_of_parse?_eq_none {σ : Type} {text : String} (h : parse? text = none) (a : σ) :
    (ofYaml text).runOn a = (.error .malformed, ⟨a, []⟩) := by
  simp [ofYaml, h, Act.runOn, Act.ofExcept]

theorem ofYaml_of_parse?_eq_some {σ : Type} {text : String} (h : parse? text = some s) (a : σ) :
    (ofYaml text).runOn a = match s.validate with
      | .ok () => (.ok s, ⟨a, s.remarks⟩)
      | .error e => (.error (.invalid e), ⟨a, []⟩) := by
  rw [ofYaml, h]
  cases hvalid : s.validate with
  | ok =>
      simp only [Act.runOn, check, Act.mapError, hvalid, Act.ofExcept, Act.noteAll, bind,
        EStateM.bind, pure, EStateM.pure, List.nil_append]
  | error e =>
      simp only [Act.runOn, check, Act.mapError, hvalid, Act.ofExcept, bind, EStateM.bind]

/-- Reading the settings of some lines ends in one way: in the settings that the lines give if
these are valid, in the first violation of them if they are not, and without settings if the lines
give none. -/
theorem ofYaml_linesText_eq_iff {σ : Type} (a : σ) {r : Except WrittenSettingsError Settings} :
    ((ofYaml (linesText ls)).runOn a).1 = r ↔ ReadFrom ls r := by
  cases hparse : parse? (linesText ls) with
  | none =>
      have hnone : ∀ s, ¬ Gives ls s := by
        intro s hs
        rw [parse?_linesText_eq_some_iff.2 hs] at hparse
        cases hparse
      rw [ofYaml_of_parse?_eq_none hparse]
      constructor
      · rintro rfl
        exact .malformed hnone
      · intro h
        cases h with
        | valid h => exact absurd h (hnone _)
        | invalid h => exact absurd h (hnone _)
        | malformed => rfl
  | some s =>
      have hs : Gives ls s := parse?_linesText_eq_some_iff.1 hparse
      rw [ofYaml_of_parse?_eq_some hparse]
      constructor
      · rintro rfl
        cases hvalid : s.validate with
        | ok => exact .valid hs hvalid
        | error e => exact .invalid hs hvalid
      · intro h
        cases h with
        | valid h hvalid =>
            obtain rfl := hs.unique h
            rw [hvalid]
        | invalid h hvalid =>
            obtain rfl := hs.unique h
            rw [hvalid]
        | malformed h => exact absurd hs (h s)

/-- Settings that are read from a text are valid. -/
theorem validate_of_ofYaml {σ : Type} {text : String} {a : σ}
    (h : ((ofYaml text).runOn a).1 = .ok s) : s.validate = .ok () := by
  cases hparse : parse? text with
  | none =>
      rw [ofYaml_of_parse?_eq_none hparse] at h
      cases h
  | some s' =>
      rw [ofYaml_of_parse?_eq_some hparse] at h
      cases hvalid : s'.validate with
      | ok =>
          rw [hvalid] at h
          cases h
          exact hvalid
      | error e =>
          rw [hvalid] at h
          cases h

end

/-! ## Writing settings -/

/-- Settings with a line for each field. -/
def lines (s : Settings) : List Line :=
  [{ name := { text := "rpc_url" }, value := .quoted s.rpcUrl },
   { name := { text := "mirror_url" }, value := .quoted s.mirrorUrl },
   { name := { text := "request_timeout_secs" },
     value := .plain (.ofNat s.requestTimeout.toNat) },
   { name := { text := "connection_timeout_secs" },
     value := .plain (.ofNat s.connectionTimeout.toNat) },
   { name := { text := "mirror_timeout_secs" },
     value := .plain (.ofNat s.mirrorTimeout.toNat) },
   { name := { text := "consistency_attempts" },
     value := .plain (.ofNat s.attempts.toNat) },
   { name := { text := "consistency_interval_ms" },
     value := .plain (.ofNat s.interval.toNat) },
   { name := { text := "operator_account_id" }, value := .ofOption s.operatorAccount },
   { name := { text := "operator_private_key" }, value := .ofOption s.operatorKey },
   { name := { text := "node_ip" }, value := .ofOption s.nodeIp },
   { name := { text := "node_account_id" }, value := .ofOption s.nodeAccount },
   { name := { text := "mirror_network_ip" }, value := .ofOption s.mirrorIp }]

theorem nodup_names_lines (s : Settings) : (s.lines.map fun l : Line => l.name.text).Nodup := by
  simp [lines]

/-- The value in a line of settings is what the lines give to its field. -/
theorem given_lines {α : Type} {Reads : Value → α → Prop} {absent a : α} {s : Settings}
    {name : String} {l : Line} (i : Nat) (hline : s.lines[i]? = some l)
    (hname : l.name.text = name) (h : Reads l.value a) : Given s.lines name Reads absent a := by
  have hmem : l ∈ s.lines := List.mem_of_getElem? hline
  have hname' : name ∈ s.lines.map fun l : Line => l.name.text := List.mem_map.2 ⟨l, hmem, hname⟩
  exact .once hmem hname (List.count_eq_one_of_mem (nodup_names_lines s) hname') h

theorem gives_lines (s : Settings) : Gives s.lines s where
  rpcUrl := given_lines 0 rfl rfl rfl
  mirrorUrl := given_lines 1 rfl rfl rfl
  requestTimeout := given_lines 2 rfl rfl (Value.denotes_ofNat _)
  connectionTimeout := given_lines 3 rfl rfl (Value.denotes_ofNat _)
  mirrorTimeout := given_lines 4 rfl rfl (Value.denotes_ofNat _)
  attempts := given_lines 5 rfl rfl (Value.denotes_ofNat _)
  interval := given_lines 6 rfl rfl (Value.denotes_ofNat _)
  operatorAccount := given_lines 7 rfl rfl (Value.optionalText_ofOption _)
  operatorKey := given_lines 8 rfl rfl (Value.optionalText_ofOption _)
  nodeIp := given_lines 9 rfl rfl (Value.optionalText_ofOption _)
  nodeAccount := given_lines 10 rfl rfl (Value.optionalText_ofOption _)
  mirrorIp := given_lines 11 rfl rfl (Value.optionalText_ofOption _)

/-- Settings that are written in lines are read back, whatever their texts and numbers. -/
theorem parse?_linesText_lines (s : Settings) : parse? (linesText s.lines) = some s :=
  parse?_linesText_eq_some_iff.2 (gives_lines s)

end Concord.Settings
