import CodeGauge.Label
import CodeGauge.Proofs.Complexity.Estimate
import CodeGauge.Proofs.Text.Numeral
import Mathlib.Data.Bool.AllAny
import Mathlib.Data.List.Nodup

/-!
The evidence lines as the only word on the metrics that a label gets. What the lines show is read
back without loss, so the reason that a label gives for linear time is the one that the metrics
have.
-/
namespace CodeGauge

/-- Where no caption is used twice, the number under a caption is the one that was put there. -/
theorem shownUnder_of_mem {values : List (Text × Int)} (hnodup : (values.map Prod.fst).Nodup)
    {entry : Text × Int} (h : entry ∈ values) : shownUnder entry.1 values = entry.2 := by
  obtain ⟨before, after, rfl⟩ := List.append_of_mem h
  rw [List.map_append, List.map_cons, List.nodup_middle, List.nodup_cons] at hnodup
  have hother : ∀ other ∈ after.reverse, (entry.1 != other.1) = true := by
    intro other hmem
    rw [bne_iff_ne]
    intro heq
    have hafter : other ∈ after := List.mem_reverse.mp hmem
    exact hnodup.1 (List.mem_append_right _ (heq ▸ List.mem_map_of_mem hafter))
  have hlookup : (before ++ entry :: after).reverse.lookup entry.1 = some entry.2 := by
    rw [List.lookup_eq_some_iff]
    exact ⟨after.reverse, before.reverse, by simp, hother⟩
  rw [shownUnder, hlookup]
  rfl

namespace Metrics

/-- Whether every number that is shown can be written: none has more digits than a numeral may
have. -/
def IsWritable (m : Metrics) : Prop :=
  ∀ entry ∈ m.shown, entry.2.natAbs < 10 ^ Numeral.maxDigits

variable {m : Metrics}

/-- The captions depend on what was measured, not on the numbers. -/
theorem map_fst_shown (m : Metrics) :
    m.shown.map Prod.fst = (shown { mode := m.mode }).map Prod.fst := by
  rw [shown, shown]
  cases m.mode <;> rfl

/-- A caption holds no colon and nothing that would be trimmed off. -/
theorem caption_of_mem_shown {entry : Text × Int} (h : entry ∈ m.shown) :
    ':' ∉ entry.1 ∧ entry.1.trim = entry.1 := by
  have hall (mode : AnalysisMode) : ∀ caption ∈ (shown { mode := mode }).map Prod.fst,
      ':' ∉ caption ∧ caption.trim = caption := by
    cases mode <;> exact List.all_iff_forall_prop.mp (by decide)
  exact hall m.mode entry.1 (m.map_fst_shown ▸ List.mem_map_of_mem h)

theorem nodup_captions (m : Metrics) : (m.shown.map Prod.fst).Nodup := by
  have hall (mode : AnalysisMode) : ((shown { mode := mode }).map Prod.fst).Nodup := by
    cases mode <;> decide
  exact m.map_fst_shown ▸ hall m.mode

theorem readEvidenceLine?_evidenceLine {entry : Text × Int} (hcolon : ':' ∉ entry.1)
    (htrim : entry.1.trim = entry.1) (hwritable : entry.2.natAbs < 10 ^ Numeral.maxDigits) :
    readEvidenceLine? (evidenceLine entry) = some entry := by
  have hother : ∀ c ∈ entry.1, (c != ':') = true := by
    intro c hc
    rw [bne_iff_ne]
    rintro rfl
    exact hcolon hc
  have hline : evidenceLine entry = entry.1 ++ ':' :: ([' '] ++ Text.ofInt entry.2) := by
    rw [evidenceLine, List.append_assoc]
    rfl
  have hvalue : Text.trim ([' '] ++ Text.ofInt entry.2) = Text.ofInt entry.2 := by
    rw [Text.trim_blank_append (List.all_iff_forall_prop.mp (by decide)),
      Text.trim_eq_self fun c => Text.isBlank_of_mem_ofInt]
  rw [readEvidenceLine?, hline, List.dropWhile_append_of_pos hother,
    List.takeWhile_append_of_pos hother, List.dropWhile_cons_of_neg (by decide),
    List.takeWhile_cons_of_neg (by decide), List.append_nil, List.drop_one, List.tail_cons, hvalue,
    Numeral.parse_ofInt hwritable, htrim]

/-- What the evidence lines show is what they were made of. -/
theorem readEvidence_evidence (h : m.IsWritable) : readEvidence m.evidence = m.shown := by
  have hline : ∀ entry ∈ m.shown, (readEvidenceLine? ∘ evidenceLine) entry = some entry := by
    intro entry hentry
    obtain ⟨hcolon, htrim⟩ := caption_of_mem_shown hentry
    exact readEvidenceLine?_evidenceLine hcolon htrim (h entry hentry)
  rw [readEvidence, evidence, List.filterMap_map, List.filterMap_congr hline, List.filterMap_some]

theorem mem_shown_loopCount (m : Metrics) : ("Loops".toList, m.loopCount) ∈ m.shown := by
  rw [shown]
  cases m.mode <;> exact List.mem_cons_self

theorem mem_shown_recursiveCalls (m : Metrics) :
    ("Recursion".toList, m.recursiveCalls) ∈ m.shown := by
  rw [shown]
  cases m.mode <;> simp

theorem reason_classify_of_linear (h : m.IsWritable) (hclass : m.timeClass = .linear) :
    m.classify.reason =
      if 0 < m.loopCount then "single loop".toList
      else if 0 < m.recursiveCalls then "recursive call".toList
      else "linear operation".toList := by
  have hloops : shownUnder "Loops" m.shown = m.loopCount :=
    shownUnder_of_mem m.nodup_captions m.mem_shown_loopCount
  have hcalls : shownUnder "Recursion" m.shown = m.recursiveCalls :=
    shownUnder_of_mem m.nodup_captions m.mem_shown_recursiveCalls
  simp only [classify, Complexity.reason, hclass, readEvidence_evidence h, hloops, hcalls,
    gt_iff_lt]

/-- Linear time has no signal of a higher class: neither loops nor calls of itself are more than one
deep. -/
theorem Coherent.counts_of_linear (h : m.Coherent) (hclass : m.timeClass = .linear) :
    m.maxNestedDepth ≤ 1 ∧ m.recursiveCalls ≤ 1 ∧
      (0 < m.maxNestedDepth ∨ 0 < m.recursiveCalls ∨ 0 < m.streamOps) := by
  obtain ⟨hsignal, hgreatest⟩ := h.picks_timeClass
  rw [hclass] at hsignal hgreatest
  have hdepth : ¬2 ≤ m.maxNestedDepth :=
    fun hdeep => absurd (hgreatest .quadratic hdeep) (by decide)
  have hcalls : ¬2 ≤ m.recursiveCalls :=
    fun hmany => absurd (hgreatest .exponential (Or.inr hmany)) (by decide)
  exact ⟨by omega, by omega, hsignal.2⟩

end Metrics

theorem CodeUnit.streamOps_of_text {u : CodeUnit} (h : u.tree = none) :
    u.metrics.streamOps = 0 := by
  have hmode : u.metrics.mode = .text := by
    rw [CodeUnit.metrics, CodeUnit.hasStructure, h]
    exact (TextScan.sound_metrics u.text u.name).2
  exact u.coherent_metrics.streams_of_text hmode

/-- Metrics that can be written are read back from their evidence, each number under its caption. So
where the analysis of a unit ends in linear time, the reason it gives is what the metrics have: a
loop, or else a single call of itself, or else a stream operation, which only a tree can show. -/
theorem Metrics.evidence_explains_linear :
    (∀ m : Metrics, m.IsWritable → readEvidence m.evidence = m.shown ∧
      ∀ entry ∈ m.shown, shownUnder entry.1 (readEvidence m.evidence) = entry.2) ∧
    ∀ (u : CodeUnit) (rules : RuleRegistry) (maxUnitSize : Int) (options : AnalysisOptions)
      (c : Complexity), u.metrics.IsWritable →
      (u.analyze rules maxUnitSize options).complexity = some c → c.time = .linear →
        (c.reason = "single loop".toList ↔ u.metrics.maxNestedDepth = 1) ∧
        (u.metrics.maxNestedDepth = 1 ↔ 0 < u.metrics.loopCount) ∧
        (c.reason = "recursive call".toList ↔
          u.metrics.loopCount = 0 ∧ u.metrics.recursiveCalls = 1) ∧
        (c.reason = "linear operation".toList ↔
          u.metrics.loopCount = 0 ∧ u.metrics.recursiveCalls = 0 ∧ u.hasStructure = true ∧
            1 ≤ u.metrics.streamOps) := by
  constructor
  · intro m hm
    rw [readEvidence_evidence hm]
    exact ⟨rfl, fun entry => shownUnder_of_mem m.nodup_captions⟩
  · intro u rules maxUnitSize options c hm hanalysis hclass
    obtain rfl : u.metrics.classify = c := by
      rw [CodeUnit.analyze] at hanalysis
      cases hchosen : options.complexity with
      | true => simpa [hchosen] using hanalysis
      | false => simp [hchosen] at hanalysis
    have hcoherent := u.coherent_metrics
    obtain ⟨hdepth, hcalls, hwork⟩ := hcoherent.counts_of_linear hclass
    have hloops := hcoherent.depth_eq_zero_iff
    have hdepth_nonneg := hcoherent.depth_nonneg
    have hloops_nonneg := hcoherent.loops_nonneg
    have hcalls_nonneg := hcoherent.recursion_nonneg
    have htree : u.hasStructure = false → u.metrics.streamOps = 0 := fun h =>
      CodeUnit.streamOps_of_text (by simpa [CodeUnit.hasStructure] using h)
    rw [reason_classify_of_linear hm hclass]
    by_cases hloop : 0 < u.metrics.loopCount
    · rw [if_pos hloop]
      exact ⟨iff_of_true rfl (by omega), by omega, iff_of_false (by decide) (by omega),
        iff_of_false (by decide) (by omega)⟩
    rw [if_neg hloop]
    by_cases hcall : 0 < u.metrics.recursiveCalls
    · rw [if_pos hcall]
      exact ⟨iff_of_false (by decide) (by omega), by omega, iff_of_true rfl (by omega),
        iff_of_false (by decide) (by omega)⟩
    rw [if_neg hcall]
    have hstream : 0 < u.metrics.streamOps := by omega
    have hstructure : u.hasStructure = true := by
      by_contra hnone
      have hzero := htree (Bool.eq_false_iff.mpr hnone)
      omega
    exact ⟨iff_of_false (by decide) (by omega), by omega, iff_of_false (by decide) (by omega),
      iff_of_true rfl ⟨by omega, by omega, hstructure, hstream⟩⟩

namespace Evidence

/-- Metrics written down by hand, with a number below zero. -/
def counted : Metrics :=
  { loopCount := 12, maxNestedDepth := 1, recursiveCalls := -1, mode := .text }

/-- A function that maps a list. -/
def piped : CodeUnit where
  id := "f"
  language := "javascript"
  text := "function f(xs) \x7b xs.map(g) \x7d"
  tree :=
    some (.node { kind := .function, name := "f" } [.node { kind := .call, name := "map" } []])

theorem metrics_piped : piped.metrics = { streamOps := 1 } := by
  have htree : piped.metrics = Metrics.ofTree
      (.node { kind := .function, name := "f" } [.node { kind := .call, name := "map" } []]) [] :=
    rfl
  rw [htree, Metrics.ofTree_eq_tally]
  decide

theorem isWritable_of_small {m : Metrics} (h : ∀ entry ∈ m.shown, entry.2.natAbs < 10 ^ 2) :
    m.IsWritable :=
  fun entry hentry =>
    Nat.lt_of_lt_of_le (h entry hentry) (Nat.pow_le_pow_right (by decide) (by decide))

end Evidence

open Evidence in
theorem Metrics.evidence_explains_linear_of_stream :
    (counted.IsWritable ∧ readEvidence counted.evidence =
      [("Loops".toList, 12), ("Max depth".toList, 1), ("Recursion".toList, -1),
        ("Double recursion".toList, 0)]) ∧
    (piped.metrics.IsWritable ∧
      (piped.analyze .builtIn 10000 {}).complexity = some piped.metrics.classify ∧
      piped.metrics.classify.time = .linear) ∧
    piped.metrics.classify.reason = "linear operation".toList := by
  have hcounted : counted.IsWritable :=
    isWritable_of_small (List.all_iff_forall_prop.mp (by decide))
  have hpiped : piped.metrics.IsWritable := by
    rw [metrics_piped]
    exact isWritable_of_small (List.all_iff_forall_prop.mp (by decide))
  have hclass : piped.metrics.classify.time = .linear := by
    rw [metrics_piped]
    decide
  have hanalysis : (piped.analyze .builtIn 10000 {}).complexity = some piped.metrics.classify := rfl
  have hcounts : piped.metrics.loopCount = 0 ∧ piped.metrics.recursiveCalls = 0 ∧
      piped.hasStructure = true ∧ 1 ≤ piped.metrics.streamOps := by
    rw [metrics_piped]
    decide
  obtain ⟨hread, hreason⟩ := evidence_explains_linear
  obtain ⟨-, -, -, hlinear⟩ := hreason piped .builtIn 10000 {} _ hpiped hanalysis hclass
  exact ⟨⟨hcounted, (hread counted hcounted).1⟩, ⟨hpiped, hanalysis, hclass⟩, hlinear.mpr hcounts⟩

end CodeGauge
