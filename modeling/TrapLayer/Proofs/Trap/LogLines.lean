import TrapLayer.Proofs.Signal.Work
import TrapLayer.Proofs.Trap.Drain

/-!
# Log lines

What is logged between two states of the hardware, read off its history.

* `Hardware.linesTo`, `Hardware.claimsTo`: the lines and the claimed interrupts of a step.
* `Hardware.Silent`: a step that logs nothing.
* `Hardware.Diagnoses`: what the lines of a step say, with `trans` for two steps and one lemma for
  each kind of step.
-/
namespace TrapLayer

namespace Effect

def line? : Effect → Option LogLine
  | logged line => some line
  | _ => none

theorem line?_of_isSilentWork {e : Effect} (h : e.isSilentWork = true) : e.line? = none := by
  cases e with
  | logged line => cases h
  | _ => rfl

end Effect

namespace Hardware

/-- The lines logged from one state to a later one. -/
def linesTo (hw hw' : Hardware) : List LogLine := (hw'.since hw.mark).filterMap Effect.line?

/-- The interrupts claimed from one state to a later one. -/
def claimsTo (hw hw' : Hardware) : List PendingIrq :=
  (hw'.since hw.mark).filterMap Effect.claimed?

/-- A step that logs nothing. -/
abbrev Silent : Hardware → Hardware → Prop := Emits (·.line? = none)

/-- In a step the interrupts `claims` are claimed, among others. Of the lines that are logged there
are errors if and only if `error`, the warnings are `warnings`, there is information if and only if
`info`, and there are no others. -/
structure Diagnoses (error : Prop) (warnings : List LogLine) (info : Prop)
    (claims : List PendingIrq) (hw hw' : Hardware) : Prop where
  later : ∃ es : List Effect, hw'.history = es ++ hw.history
  error : (∃ line ∈ hw.linesTo hw', line.level = .error) ↔ error
  warnings : (hw.linesTo hw').filter (·.level == .warn) = warnings
  info : (∃ line ∈ hw.linesTo hw', line.level = .info) ↔ info
  others : ∀ line ∈ hw.linesTo hw', line.level = .error ∨ line.level = .warn ∨ line.level = .info
  claims : claims.Sublist (hw.claimsTo hw')

variable {hw hw' hw'' : Hardware}

theorem linesTo_eq {es : List Effect} (h : hw'.history = es ++ hw.history) :
    hw.linesTo hw' = es.reverse.filterMap Effect.line? := by
  unfold linesTo
  rw [since_of_history h]

theorem claimsTo_eq {es : List Effect} (h : hw'.history = es ++ hw.history) :
    hw.claimsTo hw' = es.reverse.filterMap Effect.claimed? := by
  unfold claimsTo
  rw [since_of_history h]

theorem Shows.claimsTo_eq {es : List Effect} (h : Shows Effect.isIrq hw es hw') :
    hw.claimsTo hw' = es.filterMap Effect.claimed? := by
  unfold claimsTo
  rw [Effect.filterMap_claimed, h.since]

theorem WorksSilently.silent (h : hw.WorksSilently hw') : hw.Silent hw' :=
  h.emits.mono fun _ => Effect.line?_of_isSilentWork

namespace Diagnoses

variable {error error' info info' : Prop} {warnings warnings' : List LogLine}
  {claims claims' : List PendingIrq}

theorem trans (h : Diagnoses error warnings info claims hw hw')
    (h' : Diagnoses error' warnings' info' claims' hw' hw'') :
    Diagnoses (error ∨ error') (warnings ++ warnings') (info ∨ info') (claims ++ claims')
      hw hw'' := by
  obtain ⟨es, hes⟩ := h.later
  obtain ⟨fs, hfs⟩ := h'.later
  have hall : hw''.history = (fs ++ es) ++ hw.history := by rw [hfs, hes, List.append_assoc]
  have hlines : hw.linesTo hw'' = hw.linesTo hw' ++ hw'.linesTo hw'' := by
    rw [linesTo_eq hall, linesTo_eq hes, linesTo_eq hfs, List.reverse_append,
      List.filterMap_append]
  have hclaims : hw.claimsTo hw'' = hw.claimsTo hw' ++ hw'.claimsTo hw'' := by
    rw [claimsTo_eq hall, claimsTo_eq hes, claimsTo_eq hfs, List.reverse_append,
      List.filterMap_append]
  refine ⟨⟨_, hall⟩, ?_, ?_, ?_, ?_, ?_⟩
  · rw [hlines, ← h.error, ← h'.error]
    simp only [List.mem_append, or_and_right, exists_or]
  · rw [hlines, List.filter_append, h.warnings, h'.warnings]
  · rw [hlines, ← h.info, ← h'.info]
    simp only [List.mem_append, or_and_right, exists_or]
  · intro line hline
    rw [hlines] at hline
    exact (List.mem_append.1 hline).elim (h.others line) (h'.others line)
  · rw [hclaims]
    exact h.claims.append h'.claims

theorem congr (h : Diagnoses error warnings info claims hw hw') (he : error ↔ error')
    (hi : info ↔ info') : Diagnoses error' warnings info' claims hw hw' :=
  ⟨h.later, h.error.trans he, h.warnings, h.info.trans hi, h.others, h.claims⟩

theorem linesTo_eq_nil_iff (h : Diagnoses error warnings info claims hw hw') :
    hw.linesTo hw' = [] ↔ ¬ error ∧ warnings = [] ∧ ¬ info := by
  rw [← h.error, ← h.warnings, ← h.info]
  constructor
  · intro hnone
    rw [hnone]
    simp
  · rintro ⟨herror, hwarn, hinfo⟩
    refine List.eq_nil_iff_forall_not_mem.2 fun line hline => ?_
    rcases h.others line hline with hlevel | hlevel | hlevel
    · exact herror ⟨line, hline, hlevel⟩
    · exact List.filter_eq_nil_iff.1 hwarn line hline (by rw [hlevel]; rfl)
    · exact hinfo ⟨line, hline, hlevel⟩

theorem of_lines (lines : List LogLine)
    (h : hw'.history = (lines.map Effect.logged).reverse ++ hw.history)
    (hothers : ∀ line ∈ lines, line.level = .error ∨ line.level = .warn ∨ line.level = .info) :
    Diagnoses (∃ line ∈ lines, line.level = .error) (lines.filter (·.level == .warn))
      (∃ line ∈ lines, line.level = .info) [] hw hw' := by
  have hlines : hw.linesTo hw' = lines := by
    rw [linesTo_eq h, List.reverse_reverse, List.filterMap_map]
    exact List.filterMap_some
  exact ⟨⟨_, h⟩, by rw [hlines], by rw [hlines], by rw [hlines], by rwa [hlines],
    List.nil_sublist _⟩

theorem of_silent (h : hw.Silent hw') : Diagnoses False [] False [] hw hw' := by
  obtain ⟨es, hes, hh⟩ := h
  have hlines : hw.linesTo hw' = [] := by
    rw [linesTo_eq hh]
    exact List.filterMap_eq_nil_iff.2 fun e he => hes e (List.mem_reverse.1 he)
  exact ⟨⟨es, hh⟩, by simp [hlines], by rw [hlines]; rfl, by simp [hlines], by simp [hlines],
    List.nil_sublist _⟩

theorem silent_trans (h : hw.Silent hw') (h' : Diagnoses error warnings info claims hw' hw'') :
    Diagnoses error warnings info claims hw hw'' :=
  ((of_silent h).trans h').congr (iff_of_eq (false_or _)) (iff_of_eq (false_or _))

theorem trans_silent (h : Diagnoses error warnings info claims hw hw') (h' : hw'.Silent hw'') :
    Diagnoses error warnings info claims hw hw'' := by
  have hall := (h.trans (of_silent h')).congr (iff_of_eq (or_false _)) (iff_of_eq (or_false _))
  rwa [List.append_nil, List.append_nil] at hall

theorem error_line (hw : Hardware) (target text : String) :
    Diagnoses True [] False [] hw (hw.log .error target text) :=
  (of_lines [⟨.error, target, text⟩] rfl (by simp)).congr (by simp) (by simp)

theorem warning_line (hw : Hardware) (target text : String) :
    Diagnoses False [⟨.warn, target, text⟩] False [] hw (hw.log .warn target text) :=
  (of_lines [⟨.warn, target, text⟩] rfl (by simp)).congr (by simp) (by simp)

theorem info_line (hw : Hardware) (target text : String) :
    Diagnoses False [] True [] hw (hw.log .info target text) :=
  (of_lines [⟨.info, target, text⟩] rfl (by simp)).congr (by simp) (by simp)

theorem claim (hw : Hardware) (p : PendingIrq) :
    Diagnoses False [] False [p] hw (hw.emit (.irqClaim p.source p.irq)) := by
  have hh : (hw.emit (.irqClaim p.source p.irq)).history =
      [.irqClaim p.source p.irq] ++ hw.history := rfl
  have hlines : hw.linesTo (hw.emit (.irqClaim p.source p.irq)) = [] := linesTo_eq hh
  have hclaims : hw.claimsTo (hw.emit (.irqClaim p.source p.irq)) = [p] := claimsTo_eq hh
  exact ⟨⟨_, hh⟩, by simp [hlines], by rw [hlines]; rfl, by simp [hlines], by simp [hlines],
    hclaims ▸ List.Sublist.refl [p]⟩

end Diagnoses

end Hardware

end TrapLayer
