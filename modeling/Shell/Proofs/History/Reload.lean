import Mathlib.Tactic.Lemma
import Shell.History
import Shell.Proofs.FileSystem.Regular
import Shell.Proofs.Text.Lines

/-!
# History from one session to the next

A history that is loaded from a file, continued and flushed adds its new entries to that file as
lines. The next history that is loaded from there has all entries of the first one exactly if the
file ended its last line, or nothing was added: an entry that is appended to an unfinished line
becomes one entry with it.
-/

namespace Shell

/-! ### Entries -/

lemma mem_of_mem_trimList {p : Char → Bool} {cs : List Char} {c : Char} (h : c ∈ trimList p cs) :
    c ∈ cs := by
  rw [trimList, List.mem_reverse] at h
  have hmid := (List.dropWhile_sublist p).mem h
  rw [List.mem_reverse] at hmid
  exact (List.dropWhile_sublist p).mem hmid

lemma getLast?_trimList {p : Char → Bool} {cs : List Char} {c : Char}
    (h : (trimList p cs).getLast? = some c) : p c = false := by
  have hhead := List.head?_dropWhile_not p (cs.dropWhile p).reverse
  rw [trimList, List.getLast?_reverse] at h
  simpa [h] using hhead

lemma getLast?_trimBlank {line : String} (h : trimBlank line ≠ "") :
    ∃ c, (trimBlank line).toList.getLast? = some c ∧ isBlank c = false := by
  have hchars : (trimBlank line).toList = trimList isBlank line.toList := String.toList_ofList
  obtain ⟨c, hc⟩ : ∃ c, (trimBlank line).toList.getLast? = some c := by
    rw [← Option.isSome_iff_exists, List.getLast?_isSome]
    simpa using h
  exact ⟨c, hc, getLast?_trimList (hchars ▸ hc)⟩

lemma isBlankText_trimBlank {line : String} (h : trimBlank line ≠ "") :
    isBlankText (trimBlank line) = false := by
  obtain ⟨c, hc, hblank⟩ := getLast?_trimBlank h
  rw [isBlankText, List.all_eq_false]
  exact ⟨c, List.mem_of_getLast? hc, by simp [hblank]⟩

namespace History

/-- A text that is read back as it is when it is written on a line. -/
structure IsEntry (e : String) : Prop where
  no_feed : '\n' ∉ e.toList
  not_blank : isBlankText e = false
  no_return : e.toList.getLast? ≠ some '\r'

/-- An entry with something before it on the line. -/
lemma IsEntry.append_left {e before : String} (he : IsEntry e) (hbefore : '\n' ∉ before.toList) :
    IsEntry (before ++ e) := by
  have hne : e.toList ≠ [] := by
    intro hnil
    have hblank := he.not_blank
    rw [isBlankText, hnil] at hblank
    cases hblank
  obtain ⟨c, hc⟩ : ∃ c, e.toList.getLast? = some c :=
    Option.isSome_iff_exists.mp (List.getLast?_isSome.mpr hne)
  refine ⟨?_, ?_, ?_⟩
  · simp [String.toList_append, hbefore, he.no_feed]
  · have hblank := he.not_blank
    rw [isBlankText] at hblank ⊢
    rw [String.toList_append, List.all_append, hblank, Bool.and_false]
  · have hlast := he.no_return
    rw [hc] at hlast
    rwa [String.toList_append, List.getLast?_append, hc]

lemma isEntry_trimBlank {line : String} (hfeed : '\n' ∉ line.toList) (hne : trimBlank line ≠ "") :
    IsEntry (trimBlank line) := by
  have hchars : (trimBlank line).toList = trimList isBlank line.toList := String.toList_ofList
  obtain ⟨c, hc, hblank⟩ := getLast?_trimBlank hne
  refine ⟨fun h => hfeed (mem_of_mem_trimList (hchars ▸ h)), isBlankText_trimBlank hne, ?_⟩
  rw [hc]
  rintro ⟨⟩
  cases hblank

/-- What is recorded of the lines of a session. -/
def recorded (lines : List String) : List String :=
  (lines.map trimBlank).filter (· ≠ "")

lemma recorded_cons (line : String) (lines : List String) :
    recorded (line :: lines) = recorded [line] ++ recorded lines := by
  by_cases hline : trimBlank line = "" <;> simp [recorded, hline]

lemma isEntry_of_mem_recorded {lines : List String} (hlines : ∀ line ∈ lines, '\n' ∉ line.toList)
    {e : String} (he : e ∈ recorded lines) : IsEntry e := by
  rw [recorded, List.mem_filter, List.mem_map] at he
  obtain ⟨⟨line, hline, rfl⟩, hne⟩ := he
  exact isEntry_trimBlank (hlines line hline) (by simpa using hne)

lemma record_eq (h : History) (line : String) :
    h.record line = { h with entries := h.entries ++ recorded [line] } := by
  by_cases hline : trimBlank line = "" <;> simp [record, recorded, hline]

lemma foldl_record (h : History) (lines : List String) :
    lines.foldl record h = { h with entries := h.entries ++ recorded lines } := by
  induction lines generalizing h with
  | nil => simp [recorded]
  | cons line lines ih =>
    rw [List.foldl_cons, ih, record_eq, recorded_cons line lines, List.append_assoc]

/-! ### Lines of the file -/

lemma fileText_cons (e : String) (es : List String) :
    fileText (e :: es) = e ++ "\n" ++ fileText es := by
  simp [fileText, String.join_cons]

lemma fileText_append (es ds : List String) : fileText (es ++ ds) = fileText es ++ fileText ds := by
  induction es with
  | nil => simp [fileText]
  | cons e es ih =>
    rw [List.cons_append, fileText_cons, fileText_cons, ih, ← String.append_assoc]

/-- Entries that are written are read back. -/
lemma ofFileText_fileText {es : List String} (h : ∀ e ∈ es, IsEntry e) :
    ofFileText (fileText es) = es := by
  induction es with
  | nil => rfl
  | cons e es ih =>
    obtain ⟨he, hes⟩ := List.forall_mem_cons.mp h
    rw [fileText_cons, ofFileText, textLines_line he.no_feed he.no_return, List.filter_cons,
      if_pos (by simp [he.not_blank])]
    rw [← ofFileText, ih hes]

lemma ofFileText_append {text : String} (h : EndsLine '\n' text.toList) (rest : String) :
    ofFileText (text ++ rest) = ofFileText text ++ ofFileText rest := by
  simp only [ofFileText, textLines_append h, List.filter_append]

/-- Entries that are written after an unfinished line: the first goes on with that line. -/
lemma ofFileText_unfinished {whole last e : String} {es : List String}
    (hwhole : EndsLine '\n' whole.toList) (hlast : '\n' ∉ last.toList)
    (h : ∀ d ∈ e :: es, IsEntry d) :
    ofFileText (whole ++ last ++ fileText (e :: es)) = ofFileText whole ++ (last ++ e) :: es := by
  obtain ⟨he, hes⟩ := List.forall_mem_cons.mp h
  have hjoined := he.append_left hlast
  have htext : last ++ fileText (e :: es) = fileText ((last ++ e) :: es) := by
    simp only [fileText_cons, String.append_assoc]
  rw [String.append_assoc, htext, ofFileText_append hwhole,
    ofFileText_fileText (List.forall_mem_cons.mpr ⟨hjoined, hes⟩)]

/-! ### Appending to a regular file -/

/-- Appending to a regular file adds the pending entries to its end. It fails only on a file that
may not be written, and then only if there is something to write. -/
lemma appendTo_of_place {fs : FileSystem} {path : String} {l : Location} (h : History)
    (hplace : fs.place? path = some l) :
    if h.pending = [] ∨ fs.mayWriteAt l = true then
      ∃ fs', h.appendTo fs path =
          (.ok (), { h with file := some path, flushed := h.entries.length }, fs') ∧
        FileSystem.Saved fs fs' l (fs.bytesAt l ++ encode (fileText h.pending))
    else h.appendTo fs path =
      (.error (.os .permissionDenied), { h with file := some path }, fs) := by
  simp only [appendTo_eq, List.isEmpty_iff]
  by_cases hnone : h.pending = []
  · rw [if_pos (.inl hnone), if_pos hnone, hnone]
    refine ⟨fs, rfl, ?_⟩
    simpa [fileText, encode_eq_flatMap] using FileSystem.saved_refl fs l
  · have hsave := FileSystem.save_cases hplace .append (encode (fileText h.pending))
    rw [if_neg hnone]
    simp only [hnone, false_or]
    split at hsave
    · rename_i hmay
      obtain ⟨fs', hsave, hsaved⟩ := hsave
      rw [if_pos hmay, hsave]
      exact ⟨fs', rfl, hsaved⟩
    · rename_i hmay
      rw [if_neg hmay, hsave]

/-- Writing a regular file replaces what it holds by all entries. -/
lemma writeTo_of_place {fs : FileSystem} {path : String} {l : Location} (h : History)
    (hplace : fs.place? path = some l) :
    if fs.mayWriteAt l = true then
      ∃ fs', h.writeTo fs path =
          (.ok (), { h with file := some path, flushed := h.entries.length }, fs') ∧
        FileSystem.Saved fs fs' l (encode (fileText h.entries))
    else h.writeTo fs path =
      (.error (.os .permissionDenied), { h with file := some path }, fs) := by
  have hsave := FileSystem.save_cases hplace .truncate (encode (fileText h.entries))
  simp only [writeTo_eq]
  split at hsave
  · rename_i hmay
    obtain ⟨fs', hsave, hsaved⟩ := hsave
    rw [if_pos hmay, hsave]
    exact ⟨fs', rfl, hsaved⟩
  · rename_i hmay
    rw [if_neg hmay, hsave]

/-! ### The next session -/

/-- A session's use of its history: the file is loaded, lines are recorded, and what was recorded is
flushed. -/
def keep (fs : FileSystem) (path : String) (lines : List String) :
    Except IoError Unit × History × FileSystem :=
  (lines.foldl record (load {} fs path).2).flush fs

/-- The history of a session that found a text in its file. -/
def continued (path text : String) (lines : List String) : History where
  entries := ofFileText text ++ recorded lines
  file := some path
  flushed := (ofFileText text).length

@[simp] lemma pending_continued (path text : String) (lines : List String) :
    (continued path text lines).pending = recorded lines :=
  List.drop_left

lemma keep_eq {fs : FileSystem} {path text : String} (htext : fs.readText path = .ok text)
    (lines : List String) : keep fs path lines = (continued path text lines).appendTo fs path := by
  rw [keep, foldl_record]
  simp [load_eq, readFrom_eq, htext, flush_eq, continued]

/-- What a session leaves in its file when its flush succeeds. -/
lemma readText_keep {fs : FileSystem} {path : String} {l : Location} {text : String}
    {lines : List String} (hplace : fs.place? path = some l) (htext : fs.readText path = .ok text)
    (hkeep : (keep fs path lines).1 = .ok ()) :
    (keep fs path lines).2.1.entries = ofFileText text ++ recorded lines ∧
      (keep fs path lines).2.2.readText path = .ok (text ++ fileText (recorded lines)) := by
  rw [keep_eq htext] at hkeep ⊢
  have happend := appendTo_of_place (continued path text lines) hplace
  split at happend
  · obtain ⟨fs', happend, hsaved⟩ := happend
    obtain ⟨mode, hget, hmay⟩ := (FileSystem.readText_eq_ok_iff hplace).mp htext
    have hplace' := FileSystem.place?_revises hsaved.revises hplace
    rw [happend]
    refine ⟨rfl, (FileSystem.readText_eq_ok_iff hplace').mpr ⟨mode, ?_, hmay⟩⟩
    rw [hsaved.get? hget, pending_continued, encode_append, FileSystem.bytesAt, hget]
  · rw [happend] at hkeep
    cases hkeep

/-- Entries are read back from behind a text exactly if they begin a new line there. -/
lemma ofFileText_append_eq_iff {text : String} {es : List String} (hes : ∀ e ∈ es, IsEntry e) :
    ofFileText (text ++ fileText es) = ofFileText text ++ es ↔
      EndsLine '\n' text.toList ∨ es = [] := by
  constructor
  · intro heq
    by_cases hends : EndsLine '\n' text.toList
    · exact .inl hends
    right
    cases es with
    | nil => rfl
    | cons e es =>
      obtain ⟨whole, last, htext, hwhole, hlast, hne⟩ := exists_last_line hends
      obtain rfl : text = String.ofList whole ++ String.ofList last := by
        rw [← String.ofList_append, ← htext, String.ofList_toList]
      rw [ofFileText_unfinished (by simpa using hwhole) (by simpa using hlast) hes,
        ofFileText_append (by simpa using hwhole), List.append_assoc,
        List.append_right_inj] at heq
      -- The unfinished line is no entry of its own, so the first entry would have to be empty
      -- before it.
      have hnone : ofFileText (String.ofList last) = [] := by
        have hlength := congrArg List.length heq
        rw [List.length_append] at hlength
        exact List.length_eq_zero_iff.mp (by simpa using hlength)
      rw [hnone, List.nil_append, List.cons.injEq] at heq
      have hlength := congrArg (List.length ∘ String.toList) heq.1
      simp [hne] at hlength
  · rintro (hends | rfl)
    · rw [ofFileText_append hends, ofFileText_fileText hes]
    · simp [fileText]

/-- The next history that is loaded has the entries of the one before, unless the file had an
unfinished last line and something was added to it. -/
theorem entries_load_keep_iff {fs : FileSystem} {path : String} {l : Location} {text : String}
    {lines : List String} (hplace : fs.place? path = some l) (htext : fs.readText path = .ok text)
    (hlines : ∀ line ∈ lines, '\n' ∉ line.toList) (hkeep : (keep fs path lines).1 = .ok ()) :
    (keep fs path lines).2.1.entries = ofFileText text ++ recorded lines ∧
      (load {} (keep fs path lines).2.2 path).1 = .ok () ∧
      ((load {} (keep fs path lines).2.2 path).2.entries = (keep fs path lines).2.1.entries ↔
        EndsLine '\n' text.toList ∨ recorded lines = []) := by
  obtain ⟨hentries, hread⟩ := readText_keep hplace htext hkeep
  have hload : load {} (keep fs path lines).2.2 path =
      (.ok (), { entries := ofFileText (text ++ fileText (recorded lines)), file := some path,
                 flushed := (ofFileText (text ++ fileText (recorded lines))).length }) := by
    simp [load_eq, readFrom_eq, hread]
  refine ⟨hentries, by rw [hload], ?_⟩
  rw [hload, hentries]
  exact ofFileText_append_eq_iff fun e he => isEntry_of_mem_recorded hlines he

/-- A file system whose only file is `/h`. -/
def onlyFile (text : String) : FileSystem :=
  ⟨[(["h"], .file 0o644 (encode text))]⟩

lemma place?_onlyFile (text : String) : (onlyFile text).place? "/h" = some ["h"] :=
  FileSystem.place?_of_steps ⟨by decide, by decide, by decide⟩
    ⟨by decide, by decide, by decide, by decide⟩ (by decide) (.made 0o644 (encode text))

lemma readText_onlyFile (text : String) : (onlyFile text).readText "/h" = .ok text :=
  (FileSystem.readText_eq_ok_iff (place?_onlyFile text)).mpr ⟨0o644, rfl, by decide⟩

lemma mayWriteAt_onlyFile (text : String) : (onlyFile text).mayWriteAt ["h"] = true := by
  have hget : (onlyFile text).get? ["h"] = some (.file 0o644 (encode text)) := rfl
  rw [FileSystem.mayWriteAt, hget, Option.all_some, FileSystem.mayWrite_file _ _ []]
  decide

/-- What is appended stands behind the text. -/
lemma save_onlyFile (text added : String) (hne : encode added ≠ []) :
    (onlyFile text).save "/h" .append (encode added) = (.ok (), onlyFile (text ++ added)) := by
  have hget : (onlyFile text).get? ["h"] = some (.file 0o644 (encode text)) := rfl
  have hmay : (Entry.file 0o644 (encode text)).mayWrite = true := by
    rw [FileSystem.mayWrite_file _ _ []]
    decide
  obtain ⟨-, ⟨_, _, -, hnone, -⟩ | ⟨mode, hsome, hlocate, -⟩⟩ :=
    FileSystem.locate_of_place (place?_onlyFile text)
  · rw [hget] at hnone
    cases hnone
  · rw [show (onlyFile text).bytesAt ["h"] = encode text from rfl] at hlocate hsome
    obtain rfl : 0o644 = mode := by
      rw [hget] at hsome
      cases hsome
      rfl
    have hopen : (onlyFile text).openFile [] "/h" (.write .append) =
        .ok (.file ["h"], onlyFile text) := by
      simp [FileSystem.openFile, FileSystem.lookupFor, hlocate, FileSystem.allows, hmay]
    have hwrite : (onlyFile text).writeAt (.file ["h"]) none (encode added) =
        .ok (onlyFile (text ++ added), (encode text).length + (encode added).length) := by
      have hinsert : (onlyFile text).insert ["h"] (.file 0o644 (encode (text ++ added))) =
          onlyFile (text ++ added) := rfl
      unfold FileSystem.writeAt
      rw [if_neg (by simpa using hne)]
      simp only [hget]
      rw [← hinsert, encode_append]
      simp
    simp [FileSystem.save, hopen, FileSystem.nextOffset, hwrite]

/-- The pending entries of a history are appended. -/
lemma appendTo_onlyFile (h : History) (text : String) :
    h.appendTo (onlyFile text) "/h" =
      (.ok (), { h with file := some "/h", flushed := h.entries.length },
        onlyFile (text ++ fileText h.pending)) := by
  rw [appendTo_eq]
  cases hentries : h.pending with
  | nil => simp [fileText]
  | cons e es =>
    have hne : encode (fileText (e :: es)) ≠ [] := by
      rw [fileText_cons, encode_append, encode_append]
      simp [show encode "\n" = [10] from rfl]
    simp [save_onlyFile _ _ hne]

lemma keep_onlyFile (text : String) (lines : List String) :
    (keep (onlyFile text) "/h" lines).1 = .ok () := by
  have happend := appendTo_of_place (continued "/h" text lines) (place?_onlyFile text)
  rw [if_pos (.inr (mayWriteAt_onlyFile text)), ← keep_eq (readText_onlyFile text)] at happend
  obtain ⟨fs', hkeep, -⟩ := happend
  rw [hkeep]

/-- A file with both kinds of line ends, and lines with blanks at their ends. -/
theorem entries_load_keep_lines :
    (load {} (keep (onlyFile "ls\r\n\npwd\n") "/h" ["  cd / ", " ", "ls"]).2.2 "/h").2.entries =
      (keep (onlyFile "ls\r\n\npwd\n") "/h" ["  cd / ", " ", "ls"]).2.1.entries :=
  (entries_load_keep_iff (place?_onlyFile _) (readText_onlyFile _) (by decide)
    (keep_onlyFile _ _)).2.2.mpr (.inl (.inr (by decide)))

/-- A file with an unfinished last line: the new entry is lost in it. -/
theorem entries_load_keep_unfinished :
    (keep (onlyFile "old") "/h" ["new"]).2.1.entries = ["old", "new"] ∧
      (load {} (keep (onlyFile "old") "/h" ["new"]).2.2 "/h").2.entries = ["oldnew"] := by
  obtain ⟨hentries, hread⟩ :=
    readText_keep (place?_onlyFile "old") (readText_onlyFile "old") (keep_onlyFile "old" ["new"])
  refine ⟨by rw [hentries]; decide, ?_⟩
  simp only [load_eq, readFrom_eq, hread]
  decide

end History

end Shell
