import TaskConsole.Console.Keys

/-! Overlays and text entry capture the keyboard: a key passes Control-C, an alert,
the help screen and the mode in that order (`pressKey_captured`). -/

namespace TaskConsole.Console

open Input

/-! ## The focused field of the create form -/

/-- The field of the create form that has the focus. -/
def focusedInput (c : Console) : TextField :=
  match c.formField with
  | .name => c.nameField
  | .command => c.commandField

/-- The console with the focused field of the create form replaced by `f`. -/
def setFocusedInput (c : Console) (f : TextField) : Console :=
  match c.formField with
  | .name => { c with nameField := f }
  | .command => { c with commandField := f }

section Focused

variable (c : Console) (f : TextField)

@[simp] theorem setFocusedInput_queue : (c.setFocusedInput f).queue = c.queue := by
  unfold setFocusedInput; cases c.formField <;> rfl

@[simp] theorem setFocusedInput_view : (c.setFocusedInput f).view = c.view := by
  unfold setFocusedInput; cases c.formField <;> rfl

@[simp] theorem setFocusedInput_window : (c.setFocusedInput f).window = c.window := by
  unfold setFocusedInput; cases c.formField <;> rfl

@[simp] theorem setFocusedInput_tasks : (c.setFocusedInput f).tasks = c.tasks := by
  unfold setFocusedInput; cases c.formField <;> rfl

theorem editForm_eq (k : KeyPress) : c.editForm k = c.setFocusedInput (c.focusedInput.edit k) := by
  unfold editForm setFocusedInput focusedInput; cases c.formField <;> rfl

end Focused

/-! ## The gates -/

variable {c : Console} {k : KeyPress}

theorem pressKey_ctrl_c (hk : k.isCtrl 'c' = true) : c.pressKey k = pure { c with quit := true } := by
  rw [pressKey, if_pos hk]

theorem pressKey_alert (hk : k.isCtrl 'c' = false) (ha : c.alert.isSome = true) :
    c.pressKey k = pure { c with alert := none } := by
  rw [pressKey, if_neg (by simp [hk]), if_pos ha]

/-- The help screen takes the key; it closes on Esc, `q` and `?`. -/
theorem pressKey_help (hk : k.isCtrl 'c' = false) (ha : c.alert = none) (hh : c.showHelp = true) :
    c.pressKey k =
      pure { c with showHelp := !(k.code == .esc || k.code == .char 'q' || k.code == .char '?') } := by
  rw [pressKey, if_neg (by simp [hk]), if_neg (by simp [ha]), if_pos hh]
  split
  · next heq => simp [heq]
  · next heq => simp [heq]
  · next heq => simp [heq]
  · next hesc hq hquery =>
    -- any other key leaves the help open, which is the console as it was
    have hclose : (k.code == .esc || k.code == .char 'q' || k.code == .char '?') = false := by
      simp only [Bool.or_eq_false_iff, beq_eq_false_iff_ne, ne_eq]
      exact ⟨⟨hesc, hq⟩, hquery⟩
    rw [hclose, Bool.not_false, ← hh]

theorem pressKey_form (hk : k.isCtrl 'c' = false) (ha : c.alert = none) (hh : c.showHelp = false)
    (hm : c.mode = .createTask) : c.pressKey k = pure (c.formKey k) := by
  rw [pressKey, if_neg (by simp [hk]), if_neg (by simp [ha]), if_neg (by simp [hh])]
  split <;> simp_all

theorem pressKey_range (hk : k.isCtrl 'c' = false) (ha : c.alert = none) (hh : c.showHelp = false)
    (hm : c.mode = .rangeInput) : c.pressKey k = pure (c.rangeKey k) := by
  rw [pressKey, if_neg (by simp [hk]), if_neg (by simp [ha]), if_neg (by simp [hh])]
  split <;> simp_all

/-- In the create form a key other than Esc, Tab, BackTab and Enter edits the
focused field. -/
theorem formKey_typing (hcode : k.code ∉ [.esc, .tab, .backTab, .enter]) :
    c.formKey k = c.setFocusedInput (c.focusedInput.edit k) := by
  unfold formKey
  split <;> simp_all [editForm_eq]

/-- In the range prompt a key other than Esc and Enter edits the prompt. -/
theorem rangeKey_typing (hcode : k.code ∉ [.esc, .enter]) :
    c.rangeKey k = { c with rangeField := c.rangeField.edit k } := by
  unfold rangeKey
  split <;> simp_all

theorem useMouse_overlay {m : MouseAction} (h : (c.alert.isSome || c.showHelp) = true) :
    c.useMouse m = pure c := by
  unfold useMouse
  rw [if_pos h]

/-- The keyboard is captured in the order of the gates; in the create form and the
range prompt a key they do not bind edits one text field and nothing else. -/
theorem pressKey_captured (c : Console) (k : KeyPress) :
    (k.isCtrl 'c' = true → c.pressKey k = pure { c with quit := true }) ∧
    (k.isCtrl 'c' = false → c.alert.isSome = true → c.pressKey k = pure { c with alert := none }) ∧
    (k.isCtrl 'c' = false → c.alert = none → c.showHelp = true →
      c.pressKey k =
        pure { c with showHelp := !(k.code == .esc || k.code == .char 'q' || k.code == .char '?') }) ∧
    (k.isCtrl 'c' = false → c.alert = none → c.showHelp = false → c.mode = .createTask →
      k.code ∉ [.esc, .tab, .backTab, .enter] →
      ∃ c', c.pressKey k = pure c' ∧ c' = c.setFocusedInput (c.focusedInput.edit k) ∧
        c'.queue = c.queue ∧ c'.view = c.view ∧ c'.window = c.window ∧ c'.tasks = c.tasks) ∧
    (k.isCtrl 'c' = false → c.alert = none → c.showHelp = false → c.mode = .rangeInput →
      k.code ∉ [.esc, .enter] →
      ∃ c', c.pressKey k = pure c' ∧ c' = { c with rangeField := c.rangeField.edit k } ∧
        c'.queue = c.queue ∧ c'.view = c.view ∧ c'.window = c.window ∧ c'.tasks = c.tasks) ∧
    (∀ m : MouseAction, (c.alert.isSome || c.showHelp) = true → c.useMouse m = pure c) :=
  ⟨pressKey_ctrl_c, pressKey_alert, pressKey_help,
    fun hk ha hh hm hcode => ⟨_, (pressKey_form hk ha hh hm).trans (congrArg pure (formKey_typing hcode)),
      rfl, by simp, by simp, by simp, by simp⟩,
    fun hk ha hh hm hcode => ⟨_, (pressKey_range hk ha hh hm).trans (congrArg pure (rangeKey_typing hcode)),
      rfl, rfl, rfl, rfl, rfl⟩,
    fun _ => useMouse_overlay⟩

/-- The hotkey `q` typed while the create form is open, under each gate. -/
theorem pressKey_captured_form_q :
    let c : Console := { tasks := TaskList.new 20, window := Window.new {}, mode := .createTask }
    let q : KeyPress := { code := .char 'q' }
    q.isCtrl 'c' = false ∧ q.code ∉ [.esc, .tab, .backTab, .enter] ∧ q.code ∉ [.esc, .enter] ∧
      c.pressKey { code := .char 'c', ctrl := true } = pure { c with quit := true } ∧
      { c with alert := some "boom" }.pressKey q = pure { c with alert := none } ∧
      { c with showHelp := true }.pressKey q = pure { c with showHelp := false } ∧
      c.pressKey q = pure (c.setFocusedInput (c.focusedInput.edit q)) ∧
      { c with mode := .rangeInput }.pressKey q = pure { c with mode := .rangeInput, rangeField := c.rangeField.edit q } ∧
      { c with showHelp := true }.useMouse .wheelUp = pure { c with showHelp := true } := by
  intro c q
  have hq : q.isCtrl 'c' = false := rfl
  have hform : q.code ∉ [.esc, .tab, .backTab, .enter] := by decide
  have hrange : q.code ∉ [.esc, .enter] := by decide
  obtain ⟨_, htyped, rfl, -⟩ := (pressKey_captured c q).2.2.2.1 hq rfl rfl rfl hform
  obtain ⟨_, hprompt, rfl, -⟩ := (pressKey_captured { c with mode := .rangeInput } q).2.2.2.2.1 hq rfl rfl rfl hrange
  exact ⟨hq, hform, hrange, (pressKey_captured c _).1 rfl, (pressKey_captured _ q).2.1 hq rfl,
    (pressKey_captured _ q).2.2.1 hq rfl rfl, htyped, hprompt, (pressKey_captured _ q).2.2.2.2.2 _ rfl⟩

end TaskConsole.Console
