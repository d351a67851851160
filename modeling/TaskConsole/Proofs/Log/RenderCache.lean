import TaskConsole.Log.Cache

/-! A kept drawing is the fresh drawing: every line the program holds keeps an honest
cache (`Reachable.sound`), so any run of calls hands out fresh drawings
(`renderRun_fresh`). -/

namespace TaskConsole.CachedLine

/-- The line without its kept drawing, as the view draws it afresh. -/
def toLogLine (l : CachedLine) : LogLine := ⟨l.number, l.text⟩

/-- The cache is honest: level and escape flag are read off the text, and a kept
drawing is the fresh drawing for the setting it was made for. -/
structure Sound (l : CachedLine) : Prop where
  level_eq : l.level = LogLevel.detect l.text
  hasAnsi_eq : l.hasAnsi = l.text.toList.contains '\x1b'
  rendered_eq : ∀ colored t, l.rendered = some (colored, t) → t = l.toLogLine.render colored

/-- The lines the program holds: made from a number and a text, then drawn any
number of times. -/
inductive Reachable : CachedLine → Prop
  | new (number : Nat) (text : String) : Reachable (CachedLine.new number text)
  | getRendered {l : CachedLine} (levelColors : Bool) : Reachable l → Reachable (l.getRendered levelColors).2

/-- The drawings a line hands out for the settings asked, in order, and the line after. -/
def renderRun (l : CachedLine) : List Bool → List StyledText × CachedLine
  | [] => ([], l)
  | c :: cs => ((l.getRendered c).1 :: (renderRun (l.getRendered c).2 cs).1, (renderRun (l.getRendered c).2 cs).2)

variable {l : CachedLine}

@[simp] theorem getRendered_toLogLine (c : Bool) : (l.getRendered c).2.toLogLine = l.toLogLine := rfl

/-- Drawing from the kept level and escape flag is drawing afresh when these are
the text's own. -/
theorem draw_eq_render (h : l.Sound) (c : Bool) : l.draw c = l.toLogLine.render c := by
  unfold draw LogLine.render LogLine.hasEscapes LogLine.level toLogLine
  rw [h.hasAnsi_eq, h.level_eq]
  split
  · rfl
  · cases LogLevel.detect l.text |>.color <;> cases c <;> rfl

/-- A call keeps exactly what it hands out, for the setting asked. -/
theorem getRendered_keeps (c : Bool) : (l.getRendered c).2.rendered = some (c, (l.getRendered c).1) := by
  unfold getRendered
  cases hr : l.rendered with
  | none => rfl
  | some e =>
    obtain ⟨colored, t⟩ := e
    by_cases hc : colored = c
    · subst hc
      rw [Option.filter_some_pos (by simp)]
      rfl
    · rw [Option.filter_some_neg (by simpa using hc)]
      rfl

/-- An honest line hands out the fresh drawing. -/
theorem getRendered_fst (h : l.Sound) (c : Bool) : (l.getRendered c).1 = l.toLogLine.render c := by
  unfold getRendered
  cases hr : l.rendered with
  | none => exact draw_eq_render h c
  | some e =>
    obtain ⟨colored, t⟩ := e
    by_cases hc : colored = c
    · -- the kept drawing was made for this setting
      subst hc
      rw [Option.filter_some_pos (by simp)]
      exact h.rendered_eq colored t hr
    · rw [Option.filter_some_neg (by simpa using hc)]
      exact draw_eq_render h c

theorem new_sound (number : Nat) (text : String) : (CachedLine.new number text).Sound :=
  ⟨rfl, rfl, fun _ _ h => by cases h⟩

theorem Sound.getRendered (h : l.Sound) (c : Bool) : (l.getRendered c).2.Sound := by
  refine ⟨h.level_eq, h.hasAnsi_eq, fun colored t ht => ?_⟩
  rw [getRendered_keeps, Option.some.injEq, Prod.mk.injEq] at ht
  obtain ⟨hc, ht⟩ := ht
  subst hc
  rw [← ht]
  exact getRendered_fst h c

theorem Reachable.sound (h : l.Reachable) : l.Sound := by
  induction h with
  | new number text => exact new_sound number text
  | getRendered c _ ih => exact ih.getRendered c

/-- Along any run of calls an honest line hands out the fresh drawings. -/
theorem renderRun_sound (h : l.Sound) (cs : List Bool) :
    (renderRun l cs).1 = cs.map l.toLogLine.render := by
  induction cs generalizing l with
  | nil => rfl
  | cons c cs ih =>
    rw [renderRun, List.map_cons, getRendered_fst h c, ih (h.getRendered c), getRendered_toLogLine]

/-- The render cache agrees with fresh rendering: each call hands out what a new line
of the same number and text hands out, which is the line's fresh drawing. -/
theorem renderRun_fresh (hl : l.Reachable) (cs : List Bool) :
    (renderRun l cs).1 = cs.map (fun c => ((CachedLine.new l.number l.text).getRendered c).1) ∧
    ∀ c, ((CachedLine.new l.number l.text).getRendered c).1 = l.toLogLine.render c := by
  have hfresh : ∀ c, ((CachedLine.new l.number l.text).getRendered c).1 = l.toLogLine.render c :=
    fun c => getRendered_fst (new_sound l.number l.text) c
  refine ⟨?_, hfresh⟩
  rw [renderRun_sound hl.sound, List.map_inj_left]
  exact fun c _ => (hfresh c).symm

/-- A line drawn with colours, then asked for the plain and the coloured drawing. -/
theorem renderRun_fresh_after_toggle :
    ((CachedLine.new 1 "ERROR boom").getRendered true).2.Reachable ∧
      (renderRun ((CachedLine.new 1 "ERROR boom").getRendered true).2 [false, true]).1 =
        [false, true].map (fun c => ((CachedLine.new 1 "ERROR boom").getRendered c).1) ∧
      ∀ c, ((CachedLine.new 1 "ERROR boom").getRendered c).1 = LogLine.render ⟨1, "ERROR boom"⟩ c :=
  have hl : ((CachedLine.new 1 "ERROR boom").getRendered true).2.Reachable := .getRendered true (.new 1 "ERROR boom")
  ⟨hl, renderRun_fresh hl [false, true]⟩

end TaskConsole.CachedLine
