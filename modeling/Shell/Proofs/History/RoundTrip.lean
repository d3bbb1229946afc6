import Shell.Proofs.History.Reload

/-!
# Writing a history and reading it back

A history that is written to a regular file and read from there into a new one comes back with the
same entries exactly if none of them is blank, contains a line feed or ends with a carriage return
(`History.entries_readFrom_writeTo`). What is recorded from lines never has such an entry. A device
takes what is written without keeping it, so nothing is read back from there.
-/

namespace Shell

/-! ### Lines as they are read -/

/-- What is read of a line: one carriage return at its end belongs to the line end. -/
def lineRead (e : String) : String :=
  String.ofList (stripReturn (e.toList, true))

lemma lineRead_eq_iff {e : String} : lineRead e = e ↔ e.toList.getLast? ≠ some '\r' := by
  rw [lineRead, stripReturn]
  by_cases h : e.toList.getLast? = some '\r'
  · obtain ⟨before, hchars⟩ := List.getLast?_eq_some_iff.mp h
    have hne : String.ofList before ≠ e := by
      intro heq
      rw [← heq, String.toList_ofList] at hchars
      simp at hchars
    simpa [hchars] using hne
  · simp [h]

/-- A carriage return is blank, so without it a text is as blank as it was. -/
lemma isBlankText_lineRead (e : String) : isBlankText (lineRead e) = isBlankText e := by
  rw [lineRead, stripReturn]
  by_cases h : e.toList.getLast? = some '\r'
  · obtain ⟨before, hchars⟩ := List.getLast?_eq_some_iff.mp h
    simp [isBlankText, hchars, show isBlank '\r' = true by decide]
  · simp [h]

lemma textLines_cons {e : String} (h : '\n' ∉ e.toList) (rest : String) :
    textLines (e ++ "\n" ++ rest) = lineRead e :: textLines rest := by
  have hchars : (e ++ "\n" ++ rest).toList = e.toList ++ '\n' :: rest.toList := by
    simp [String.toList_append]
  simp only [textLines, hchars, cutLines_line h, List.map_cons, lineRead]

namespace History

lemma isBlankText_of_mem_ofFileText {text e : String} (h : e ∈ ofFileText text) :
    isBlankText e = false := by
  simpa using (List.mem_filter.mp h).2

/-- Entries without line feeds are read back line by line; the blank ones are left out. -/
lemma ofFileText_fileText_eq {es : List String} (h : ∀ e ∈ es, '\n' ∉ e.toList) :
    ofFileText (fileText es) = (es.filter fun e => !isBlankText e).map lineRead := by
  induction es with
  | nil => rfl
  | cons e es ih =>
    obtain ⟨he, hes⟩ := List.forall_mem_cons.mp h
    rw [fileText_cons, ofFileText, textLines_cons he, List.filter_cons, List.filter_cons,
      isBlankText_lineRead, ← ofFileText, ih hes]
    split <;> rfl

/-- Entries are read back as they were exactly if each fits on a line. -/
theorem ofFileText_fileText_iff {es : List String} :
    ofFileText (fileText es) = es ↔ ∀ e ∈ es, IsEntry e := by
  constructor
  · intro heq
    have hfeed : ∀ e ∈ es, '\n' ∉ e.toList := by
      intro e he
      rw [← heq] at he
      exact feed_notMem_of_mem_textLines (List.mem_filter.mp he).1
    have hblank : ∀ e ∈ es, isBlankText e = false := by
      intro e he
      rw [← heq] at he
      exact isBlankText_of_mem_ofFileText he
    -- no line is left out, so each entry is the line that is read of it
    have hkept : es.filter (fun e => !isBlankText e) = es :=
      List.filter_eq_self.mpr fun e he => by simp [hblank e he]
    have hread : es.map lineRead = es.map id := by
      rw [List.map_id, ← hkept, ← ofFileText_fileText_eq hfeed, hkept, heq]
    intro e he
    exact ⟨hfeed e he, hblank e he, lineRead_eq_iff.mp (List.map_inj_left.mp hread e he)⟩
  · exact ofFileText_fileText

end History

/-! ### Files that are read back -/

namespace FileSystem

/-- What stands at a location, if anything does, may be read. -/
def mayReadAt (fs : FileSystem) (l : Location) : Bool :=
  (fs.get? l).all Entry.mayRead

/-- A file that is made by saving has the permission bits of a new file. -/
lemma get?_save_of_none {fs fs' : FileSystem} {path : String} {l : Location} {mode : WriteMode}
    {bytes : Bytes} (hplace : fs.place? path = some l) (hget : fs.get? l = none)
    (hsave : fs.save path mode bytes = (.ok (), fs')) :
    fs'.get? l = some (.file newFileMode bytes) := by
  have hl := (locate_of_place hplace).1
  have hnew : (fs.insert l (.file newFileMode [])).get? l =
      some (.file newFileMode (kept mode [])) := by
    cases mode <;> exact get?_insert_self _ _ _ hl
  obtain ⟨written, after, hwrite, hget', -⟩ := writeAt_kept hnew hl bytes
  obtain rfl : written = fs' := by simpa [save, openFile_new hplace hget mode, hwrite] using hsave
  rw [hget']
  cases mode <;> rfl

/-- What is saved in a file that may be read is read back. -/
lemma readText_save {fs fs' : FileSystem} {path text : String} {l : Location}
    (hplace : fs.place? path = some l) (hread : fs.mayReadAt l = true)
    (hsave : fs.save path .truncate (encode text) = (.ok (), fs')) :
    fs'.readText path = .ok text := by
  have hcases := save_cases hplace .truncate (encode text)
  split at hcases
  · obtain ⟨fs'', hsave', hsaved⟩ := hcases
    obtain rfl : fs'' = fs' := by simpa [hsave] using hsave'.symm
    refine (readText_eq_ok_iff (place?_revises hsaved.revises hplace)).mpr ?_
    obtain ⟨-, ⟨_, _, rfl, hget, -, -⟩ | ⟨mode, hget, -, -⟩⟩ := locate_of_place hplace
    · exact ⟨newFileMode, get?_save_of_none hplace hget hsave, by decide⟩
    · refine ⟨mode, by simpa [kept] using hsaved.get? hget, ?_⟩
      rw [mayReadAt, hget] at hread
      exact hread
  · rw [hcases] at hsave
    cases hsave

end FileSystem

namespace History

lemma save_of_writeTo {fs : FileSystem} {path : String} {h : History}
    (hok : (h.writeTo fs path).1 = .ok ()) :
    fs.save path .truncate (encode (fileText h.entries)) = (.ok (), (h.writeTo fs path).2.2) := by
  rw [writeTo_eq] at hok ⊢
  split at hok
  · cases hok
  · rename_i fs' hsave
    rw [hsave]

/-- A history that was written to a regular file, which may also be read, is read from there into a
new one. That has the same entries exactly if every entry fits on a line, as all do that were
recorded from lines. -/
theorem entries_readFrom_writeTo {fs : FileSystem} {path : String} {l : Location}
    (hplace : fs.place? path = some l) (hread : fs.mayReadAt l = true) {h : History}
    (hok : (h.writeTo fs path).1 = .ok ()) :
    let again := readFrom {} (h.writeTo fs path).2.2 path
    again.1 = .ok () ∧
      (again.2.entries = h.entries ↔
        ∀ e ∈ h.entries, isBlankText e = false ∧ '\n' ∉ e.toList ∧
          e.toList.getLast? ≠ some '\r') ∧
      ∀ lines : List String, (∀ line ∈ lines, '\n' ∉ line.toList) → h = lines.foldl record {} →
        again.2.entries = h.entries := by
  intro again
  have hagain : again =
      (.ok (), { entries := ofFileText (fileText h.entries), file := some path }) := by
    simp only [again, readFrom_eq, FileSystem.readText_save hplace hread (save_of_writeTo hok)]
    rfl
  rw [hagain]
  refine ⟨rfl, ?_, ?_⟩
  · refine ofFileText_fileText_iff.trans (forall₂_congr fun e _ => ?_)
    constructor
    · exact fun he => ⟨he.not_blank, he.no_feed, he.no_return⟩
    · rintro ⟨hblank, hfeed, hreturn⟩
      exact ⟨hfeed, hblank, hreturn⟩
  · rintro lines hlines rfl
    refine ofFileText_fileText fun e he => ?_
    rw [foldl_record, List.nil_append] at he
    exact isEntry_of_mem_recorded hlines he

/-- Lines that end in carriage returns, are blank or have one in their middle. -/
theorem entries_readFrom_writeTo_lines :
    let h := [" ls\r", "\r", "echo a\rb"].foldl record {}
    (onlyFile "old\n").place? "/h" = some ["h"] ∧ (onlyFile "old\n").mayReadAt ["h"] = true ∧
      (h.writeTo (onlyFile "old\n") "/h").1 = .ok () ∧ h.entries = ["ls", "echo a\rb"] ∧
      (readFrom {} (h.writeTo (onlyFile "old\n") "/h").2.2 "/h").2.entries = h.entries := by
  intro h
  have hplace := place?_onlyFile "old\n"
  have hread : (onlyFile "old\n").mayReadAt ["h"] = true := rfl
  have hwrite := writeTo_of_place h hplace
  rw [if_pos (mayWriteAt_onlyFile _)] at hwrite
  obtain ⟨fs', hwrite, -⟩ := hwrite
  have hok : (h.writeTo (onlyFile "old\n") "/h").1 = .ok () := by rw [hwrite]
  refine ⟨hplace, hread, hok, by decide, ?_⟩
  exact (entries_readFrom_writeTo hplace hread hok).2.2 _ (by decide) rfl

/-- A file system with the device that keeps nothing. -/
def withNull : FileSystem :=
  ⟨[(["dev"], .directory), (["dev", "null"], .device .null)]⟩

lemma locate_null (lookup : FileSystem.Lookup) :
    withNull.locate lookup [] "/dev/null" = .ok (.present ["dev", "null"] (.device .null)) := by
  refine FileSystem.locate_eq_ok_iff.mpr ⟨by decide, ?_⟩
  have hsteps : FileSystem.steps "/dev/null" = ["dev", "null"] := by decide
  rw [ite_self, hsteps]
  refine .enter (by decide) (by simp) rfl ?_
  exact .found (by decide) rfl (by decide) (by simp)

/-- The device takes an entry that fits on a line, and nothing is read back. -/
theorem entries_readFrom_writeTo_null :
    let h : History := { entries := ["ls"] }
    (∀ e ∈ h.entries, isBlankText e = false ∧ '\n' ∉ e.toList ∧ e.toList.getLast? ≠ some '\r') ∧
      (h.writeTo withNull "/dev/null").1 = .ok () ∧
      (readFrom {} (h.writeTo withNull "/dev/null").2.2 "/dev/null").1 = .ok () ∧
      (readFrom {} (h.writeTo withNull "/dev/null").2.2 "/dev/null").2.entries ≠ h.entries := by
  intro h
  have hwrite : h.writeTo withNull "/dev/null" =
      (.ok (), { h with file := some "/dev/null", flushed := 1 }, withNull) := by
    have hsave : withNull.save "/dev/null" .truncate (encode (fileText h.entries)) =
        (.ok (), withNull) := by
      simp [FileSystem.save, FileSystem.openFile, FileSystem.lookupFor, locate_null,
        FileSystem.writeAt]
    simp only [writeTo_eq, hsave]
    rfl
  have hread : withNull.readText "/dev/null" = .ok "" := by
    simp [FileSystem.readText, FileSystem.read, FileSystem.openFile, FileSystem.lookupFor,
      locate_null, FileSystem.readAll, Except.bind, asText, show decode? [] = some "" from rfl]
  rw [hwrite]
  refine ⟨by decide, rfl, ?_, ?_⟩
  · simp [readFrom_eq, hread]
  · simp only [readFrom_eq, hread]
    decide

end History

end Shell
