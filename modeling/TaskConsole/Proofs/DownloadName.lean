import TaskConsole.Proofs.Text.Cut

/-! Names of downloaded files stay in their directory (`fileName_confined`), and the
service's own two forms give back a plain name as sent (`fileName_server_forms`). -/

namespace TaskConsole.Download

/-- A name that keeps a file directly inside the directory it is joined to. -/
structure Confined (n : String) : Prop where
  ne_empty : n ≠ ""
  no_slash : '/' ∉ n.toList
  ne_dot : n ≠ "."
  ne_dots : n ≠ ".."

/-- A name as the service sends it: confined, without a semicolon, and with no
blank, quote or apostrophe at either end. -/
structure PlainName (n : String) : Prop extends Confined n where
  no_semicolon : ';' ∉ n.toList
  head_plain : ∀ c ∈ n.toList.head?, Text.isBlank c = false ∧ c ≠ '"' ∧ c ≠ '\''
  last_plain : ∀ c ∈ n.toList.getLast?, Text.isBlank c = false ∧ c ≠ '"' ∧ c ≠ '\''

theorem PlainName.toList_ne_nil {n : String} (h : PlainName n) : n.toList ≠ [] := fun e =>
  h.ne_empty (String.toList_inj.mp (by rw [e]; rfl))

/-! ## The last component -/

/-- A path's last component is a confined name. -/
theorem lastComponent_confined {p n : String} (h : lastComponent p = some n) : Confined n := by
  unfold lastComponent at h
  split at h
  · cases h
  · next q hdots hlast =>
    cases h
    have hmem := List.mem_of_getLast? hlast
    obtain ⟨hpiece, hkept⟩ := List.mem_filter.mp hmem
    simp only [Bool.and_eq_true, bne_iff_ne, ne_eq] at hkept
    exact ⟨hkept.1, not_mem_of_mem_pieces hpiece, hkept.2, hdots⟩
  · cases h

/-- A confined name is its own last component. -/
theorem lastComponent_of_confined {n : String} (h : Confined n) : lastComponent n = some n := by
  have hkept : (n != "" && n != ".") = true := by simp [h.ne_empty, h.ne_dot]
  unfold lastComponent
  rw [pieces_of_not_mem h.no_slash, List.filter_singleton, hkept, cond_true, List.getLast?_singleton]
  split
  · next heq => exact absurd (Option.some.inj heq) h.ne_dots
  · next heq => exact heq.symm
  · next heq => cases heq

/-- Whatever the header, the name taken is confined. -/
theorem fileName_confined {header n : String} (h : fileName header = some n) : Confined n := by
  obtain ⟨part, -, hpart⟩ := List.exists_of_findSome?_eq_some h
  obtain ⟨hcomp, -⟩ := Option.filter_eq_some_iff.mp hpart
  obtain ⟨v, -, hv⟩ := Option.bind_eq_some_iff.mp hcomp
  exact lastComponent_confined hv

/-! ## The forms the service sends -/

/-- A parameter whose key, without blank ends, starts with `filename` proposes
its value without blank ends, an extended-value prefix and quotes. -/
theorem proposal_of_split {part key value : String} (hsplit : Input.splitOnce part '=' = some (key, value))
    (hkey : (Text.trim key).startsWith "filename" = true) :
    proposal part = some (trimBy (fun c => c == '"' || c == '\'')
      (if (Text.trim value).startsWith "UTF-8''" then ((Text.trim value).drop 7).toString else Text.trim value)) := by
  rw [proposal, hsplit]
  simp only [Option.bind_eq_bind, Option.bind_some]
  rw [if_pos hkey]

/-- The quoted form proposes the name between the quotes. -/
theorem proposal_quoted {n : String} (hn : PlainName n) :
    proposal ("filename=\"" ++ n ++ "\"") = some n := by
  have hsplit : Input.splitOnce ("filename=\"" ++ n ++ "\"") '=' = some ("filename", "\"" ++ n ++ "\"") :=
    Input.splitOnce_eq_some_iff.mpr ⟨by simp [String.toList_append], by simp⟩
  have hvalue : ("\"" ++ n ++ "\"").toList = '"' :: (n.toList ++ ['"']) := by
    simp [String.toList_append]
  -- quotes are no blanks, so trimming the value keeps them
  have htrim : Text.trim ("\"" ++ n ++ "\"") = "\"" ++ n ++ "\"" := by
    apply Text.trim_of_plain_ends
    · rw [hvalue]
      rintro c ⟨⟩
      decide
    · rw [hvalue, ← List.cons_append, List.getLast?_concat]
      rintro c ⟨⟩
      decide
  have hprefix : ("\"" ++ n ++ "\"").startsWith "UTF-8''" = false := by
    rw [String.startsWith_string_eq_false_iff, hvalue]
    simp
  have hquoted : "\"" ++ n ++ "\"" = String.ofList (['"'] ++ n.toList ++ ['"']) :=
    String.toList_inj.mp (by simp [hvalue])
  rw [proposal_of_split hsplit (by decide +kernel), htrim, hprefix, if_neg (by simp), hquoted,
    trimBy_pad (by simp) (by simp) hn.toList_ne_nil, String.ofList_toList]
  · exact fun c hc => by simp [(hn.head_plain c hc).2]
  · exact fun c hc => by simp [(hn.last_plain c hc).2]

/-- The extended form proposes the name after its `UTF-8''` prefix. -/
theorem proposal_extended {n : String} (hn : PlainName n) :
    proposal ("filename*=UTF-8''" ++ n) = some n := by
  have hne := hn.toList_ne_nil
  have hsplit : Input.splitOnce ("filename*=UTF-8''" ++ n) '=' = some ("filename*", "UTF-8''" ++ n) :=
    Input.splitOnce_eq_some_iff.mpr ⟨by simp [String.toList_append], by simp⟩
  -- the value starts with its prefix and ends as the name does, so it is not trimmed
  have htrim : Text.trim ("UTF-8''" ++ n) = "UTF-8''" ++ n := by
    apply Text.trim_of_plain_ends
    · simp [String.toList_append]
      decide
    · rw [String.toList_append, List.getLast?_append_of_ne_nil _ hne]
      exact fun c hc => (hn.last_plain c hc).1
  have hprefix : ("UTF-8''" ++ n).startsWith "UTF-8''" = true := by
    rw [String.startsWith_string_iff, String.toList_append]
    exact List.prefix_append _ _
  have hdrop : (("UTF-8''" ++ n).drop 7).toString = n := by
    apply String.toList_inj.mp
    rw [String.Slice.toString_eq, String.toList_copy_drop, String.toList_append]
    exact List.drop_left' rfl
  rw [proposal_of_split hsplit (by decide +kernel), htrim, if_pos hprefix, hdrop, trimBy_of_plain_ends]
  · exact fun c hc => by simp [(hn.head_plain c hc).2]
  · exact fun c hc => by simp [(hn.last_plain c hc).2]

/-- A header of one parameter after a disposition type that proposes nothing is
read from that parameter alone. -/
theorem fileName_param {d param : String} (hd : ';' ∉ d.toList) (hkey : '=' ∉ (Text.trim d).toList)
    (hparam : ';' ∉ param.toList) :
    fileName (d ++ ";" ++ param) = ((proposal (Text.trim param)).bind lastComponent).filter (!·.isEmpty) := by
  have hpieces : pieces (d ++ ";" ++ param) ';' = [d, param] := by
    have hlist : d ++ ";" ++ param = String.ofList (d.toList ++ ';' :: param.toList) :=
      String.toList_inj.mp (by simp [String.toList_append])
    rw [hlist, pieces_cons hd, String.ofList_toList, String.ofList_toList, pieces_of_not_mem hparam]
  -- the disposition type has no `=`, so it proposes nothing
  have hnone : proposal (Text.trim d) = none := by
    have hsplit : Input.splitOnce (Text.trim d) '=' = none := by
      unfold Input.splitOnce
      simp [hkey]
    rw [proposal, hsplit]
    rfl
  rw [fileName, hpieces, List.map_cons, List.map_cons, List.map_nil,
    List.findSome?_cons_of_isNone (by rw [hnone]; rfl), List.findSome?_singleton]

/-- A parameter after one space is read without it, when its own ends are plain. -/
theorem trim_space_prefix {s : String} (hne : s.toList ≠ []) (hhead : ∀ c ∈ s.toList.head?, Text.isBlank c = false)
    (hlast : ∀ c ∈ s.toList.getLast?, Text.isBlank c = false) : Text.trim (" " ++ s) = s := by
  have hs : " " ++ s = String.ofList ([' '] ++ s.toList ++ []) :=
    String.toList_inj.mp (by simp [String.toList_append])
  have hspace : ∀ c ∈ [' '], Text.isBlank c = true := by
    simp only [List.mem_singleton]
    rintro c rfl
    rfl
  rw [hs, Text.trim_pad hspace (by simp) hne hhead hlast, String.ofList_toList]

/-- A disposition type without `;` or `=` followed by the parameter proposing a
confined name gives that name. -/
theorem fileName_of_proposal {d s n : String} (hd : ';' ∉ d.toList) (heq : '=' ∉ d.toList)
    (hs : ';' ∉ s.toList) (hne : s.toList ≠ []) (hhead : ∀ c ∈ s.toList.head?, Text.isBlank c = false)
    (hlast : ∀ c ∈ s.toList.getLast?, Text.isBlank c = false) (hprop : proposal s = some n) (hn : Confined n) :
    fileName (d ++ "; " ++ s) = some n := by
  have hsplit : d ++ "; " ++ s = d ++ ";" ++ (" " ++ s) :=
    String.toList_inj.mp (by simp [String.toList_append])
  have hparam : ';' ∉ (" " ++ s).toList := by simpa [String.toList_append] using hs
  have hnonempty : (!n.isEmpty) = true := by simpa [String.isEmpty_iff] using hn.ne_empty
  rw [hsplit, fileName_param hd (fun h => heq (Text.mem_of_mem_trim h)) hparam,
    trim_space_prefix hne hhead hlast, hprop, Option.bind_some, lastComponent_of_confined hn,
    Option.filter_some, if_pos hnonempty]

/-- A header in the quoted form gives the name between the quotes. -/
theorem fileName_quoted {d n : String} (hd : ';' ∉ d.toList) (heq : '=' ∉ d.toList) (hn : PlainName n) :
    fileName (d ++ "; filename=\"" ++ n ++ "\"") = some n := by
  have hlist : ("filename=\"" ++ n ++ "\"").toList = "filename=\"".toList ++ n.toList ++ ['"'] := by
    simp [String.toList_append]
  have hheader : d ++ "; filename=\"" ++ n ++ "\"" = d ++ "; " ++ ("filename=\"" ++ n ++ "\"") :=
    String.toList_inj.mp (by simp [String.toList_append])
  rw [hheader]
  refine fileName_of_proposal hd heq ?_ (by simp [hlist]) ?_ ?_ (proposal_quoted hn) hn.toConfined
  · simpa [hlist] using hn.no_semicolon
  · rw [hlist]
    rintro c ⟨⟩
    decide
  · rw [hlist, List.getLast?_concat]
    rintro c ⟨⟩
    decide

/-- A header in the extended form gives the name after the `UTF-8''` prefix. -/
theorem fileName_extended {d n : String} (hd : ';' ∉ d.toList) (heq : '=' ∉ d.toList) (hn : PlainName n) :
    fileName (d ++ "; filename*=UTF-8''" ++ n) = some n := by
  have hlist : ("filename*=UTF-8''" ++ n).toList = "filename*=UTF-8''".toList ++ n.toList := by
    simp [String.toList_append]
  have hheader : d ++ "; filename*=UTF-8''" ++ n = d ++ "; " ++ ("filename*=UTF-8''" ++ n) :=
    String.toList_inj.mp (by simp [String.toList_append])
  rw [hheader]
  refine fileName_of_proposal hd heq ?_ (by simp [hlist]) ?_ ?_ (proposal_extended hn) hn.toConfined
  · simpa [hlist] using hn.no_semicolon
  · rw [hlist]
    rintro c ⟨⟩
    decide
  · rw [hlist, List.getLast?_append_of_ne_nil _ hn.toList_ne_nil]
    exact fun c hc => (hn.last_plain c hc).1

/-- The service never picks a directory: every name a header gives is confined.
And the forms the service sends, `filename="N"` and `filename*=UTF-8''N` after a
disposition type such as `attachment`, give `N` itself. -/
theorem fileName_server_forms :
    (∀ header n : String, fileName header = some n → Confined n) ∧
    (∀ d n : String, ';' ∉ d.toList → '=' ∉ d.toList → PlainName n →
      fileName (d ++ "; filename=\"" ++ n ++ "\"") = some n ∧
      fileName (d ++ "; filename*=UTF-8''" ++ n) = some n) :=
  ⟨fun _ _ => fileName_confined,
    fun _ _ hd heq hn => ⟨fileName_quoted hd heq hn, fileName_extended hd heq hn⟩⟩

theorem fileName_server_forms_task_log :
    fileName "attachment; filename=\"../../etc/passwd\"" = some "passwd" ∧ Confined "passwd" ∧
      PlainName "task-7.log" ∧
      fileName ("attachment" ++ "; filename=\"" ++ "task-7.log" ++ "\"") = some "task-7.log" ∧
      fileName ("attachment" ++ "; filename*=UTF-8''" ++ "task-7.log") = some "task-7.log" := by
  have hpasswd : fileName "attachment; filename=\"../../etc/passwd\"" = some "passwd" := by decide +kernel
  have hname : PlainName "task-7.log" :=
    { ne_empty := by decide, no_slash := by simp, ne_dot := by decide, ne_dots := by decide,
      no_semicolon := by simp,
      head_plain := by simp only [Option.mem_def]; rintro c ⟨⟩; decide,
      last_plain := by simp only [Option.mem_def]; rintro c ⟨⟩; decide }
  exact ⟨hpasswd, fileName_server_forms.1 _ _ hpasswd, hname,
    fileName_server_forms.2 "attachment" "task-7.log" (by simp) (by simp) hname⟩

end TaskConsole.Download
