import CodeGauge.Proofs.Metrics.BlockText
import CodeGauge.Proofs.Text.Blank
import Mathlib.Data.Bool.AllAny
import Mathlib.Logic.Relation

/-!
What the metrics of a text do not see. They rest on the lines of code alone, and those are the same
whatever ends the lines, wherever blank lines and comments stand between them, and however they are
indented.
-/
namespace CodeGauge.TextScan

/-- Between a carriage return and the line feed behind it there is no code. -/
theorem codeLines_append_crlf (before text : Text) :
    codeLines (before ++ text.crlf) = codeLines (before ++ text) := by
  induction text generalizing before with
  | nil => rfl
  | cons c text ih =>
    by_cases hc : c = '\n'
    · subst hc
      have hcrlf : before ++ Text.crlf ('\n' :: text) =
          before ++ '\r' :: ('\n' :: Text.crlf text) := by
        rw [Text.crlf, List.flatMap_cons, if_pos rfl]
        rfl
      have hfeed : codeLines ('\n' :: Text.crlf text) = codeLines (Text.crlf text) :=
        codeLines_append_break [] (Text.crlf text) (by decide)
      rw [hcrlf, codeLines_append_break before _ (by decide), hfeed,
        codeLines_append_break before text (by decide)]
      exact congrArg (codeLines before ++ ·) (ih [])
    · have hkept : before ++ Text.crlf (c :: text) = (before ++ [c]) ++ Text.crlf text := by
        rw [Text.crlf, List.flatMap_cons, if_neg hc, List.append_assoc]
        rfl
      rw [hkept, ih (before ++ [c]), List.append_assoc]
      rfl

/-- A change of the layout: carriage returns before all line feeds, one more line without code, or
one line with other spaces and tabs around it. -/
inductive Relayout : Text → Text → Prop
  | lineEndings (text : Text) : Relayout text text.crlf
  | skippedLine {before line : Text} (after : Text) (hbefore : EndsLine before)
      (hline : ∀ c ∈ line, isLineBreak c = false) (hskipped : isCodeLine line = false) :
      Relayout (before ++ after) (before ++ (line ++ '\n' :: after))
  | padding {before line after lead trail : Text} (hbefore : EndsLine before)
      (hafter : BeginsLine after) (hline : ∀ c ∈ line, isLineBreak c = false)
      (hlead : ∀ c ∈ lead, isIndent c = true) (htrail : ∀ c ∈ trail, isIndent c = true) :
      Relayout (before ++ (line ++ after)) (before ++ ((lead ++ (line ++ trail)) ++ after))

theorem isLineBreak_of_isIndent {c : Char} (h : isIndent c = true) : isLineBreak c = false := by
  rw [isIndent, Bool.or_eq_true, beq_iff_eq, beq_iff_eq] at h
  rcases h with rfl | rfl <;> decide

theorem Relayout.codeLines_eq {text text' : Text} (h : Relayout text text') :
    codeLines text = codeLines text' := by
  cases h with
  | lineEndings text => exact (codeLines_append_crlf [] text).symm
  | @skippedLine before line after hbefore hline hskipped =>
    have hbreak : BeginsLine ('\n' :: after) := Or.inr ⟨'\n', after, rfl, by decide⟩
    have hafter : codeLines ('\n' :: after) = codeLines after :=
      codeLines_append_break [] after (by decide)
    rw [codeLines_around hbefore hbreak hline, codeAmong_singleton, hskipped, hafter,
      hbefore.codeLines_append]
    rfl
  | @padding before line after lead trail hbefore hafter hline hlead htrail =>
    have hpadded : ∀ c ∈ lead ++ (line ++ trail), isLineBreak c = false := by
      intro c hc
      rcases List.mem_append.mp hc with hc | hc
      · exact isLineBreak_of_isIndent (hlead c hc)
      rcases List.mem_append.mp hc with hc | hc
      · exact hline c hc
      · exact isLineBreak_of_isIndent (htrail c hc)
    have htrim : Text.trim (lead ++ (line ++ trail)) = Text.trim line := by
      rw [Text.trim_blank_append fun c hc => isBlank_of_isIndent (hlead c hc),
        Text.trim_append_blank line fun c hc => isBlank_of_isIndent (htrail c hc)]
    rw [codeLines_around hbefore hafter hline, codeLines_around hbefore hafter hpadded,
      codeAmong, codeAmong, List.map_singleton, List.map_singleton, htrim]

/-- Texts that differ in their layout alone have the same metrics: it does not matter how the line
feeds are written, which blank lines and comments stand between the lines, and what spaces and tabs
stand around each of them. -/
theorem metrics_eq_of_relayout {text text' : Text} (h : Relation.EqvGen Relayout text text')
    (name : Text) : metrics text name = metrics text' name := by
  have hlines : codeLines text = codeLines text' := by
    induction h with
    | rel _ _ hstep => exact hstep.codeLines_eq
    | refl _ => rfl
    | symm _ _ _ ih => exact ih.symm
    | trans _ _ _ _ _ ih ih' => exact ih.trans ih'
  rw [metrics, metrics, hlines]

namespace Layouts

def comment : Text := "# calls itself"

def header : Text := "def f(x):"

def body : Text := "\n    return f(x)\n"

/-- With a comment, and blanks behind the header. -/
def spacious : Text := (comment ++ ['\n']) ++ (([] ++ (header ++ "\t ".toList)) ++ body)

theorem eqvGen_spacious : Relation.EqvGen Relayout (header ++ body) spacious.crlf := by
  have hcomment : Relayout (header ++ body) ((comment ++ ['\n']) ++ (header ++ body)) :=
    @Relayout.skippedLine [] comment (header ++ body) (Or.inl rfl)
      (List.all_iff_forall_prop.mp (by decide)) (by decide)
  have hpadding : Relayout ((comment ++ ['\n']) ++ (header ++ body)) spacious :=
    .padding (Or.inr ⟨comment, '\n', rfl, by decide⟩) (Or.inr ⟨'\n', body.tail, rfl, by decide⟩)
      (List.all_iff_forall_prop.mp (by decide)) (List.all_iff_forall_prop.mp (by decide))
      (List.all_iff_forall_prop.mp (by decide))
  exact .trans _ _ _ (.rel _ _ hcomment)
    (.trans _ _ _ (.rel _ _ hpadding) (.rel _ _ (.lineEndings spacious)))

end Layouts

open Layouts in
theorem metrics_eq_of_relayout_of_comment :
    Relation.EqvGen Relayout (header ++ body) spacious.crlf ∧
      metrics (header ++ body) "f" = metrics spacious.crlf "f" :=
  ⟨eqvGen_spacious, metrics_eq_of_relayout eqvGen_spacious "f"⟩

end CodeGauge.TextScan
