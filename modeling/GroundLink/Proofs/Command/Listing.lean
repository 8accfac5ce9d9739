import GroundLink.Command.Response
import GroundLink.Proofs.Attempts
import GroundLink.Proofs.Text.Lines
import GroundLink.Proofs.Text.Numeral

/-! # Directory listings

A listing has a line for each file, with the name and the size on both sides of a tab. Its lines end
in either way, the last one need not end at all, and empty lines do not count. Such a text is read
as the files that it lists; and whatever else a satellite answers, its names are those that stand
with the sizes, if sizes can be read.
-/

namespace GroundLink.Command

/-- The two ways in which a line ends. -/
inductive LineEnd where
  | feed
  | returnFeed
  deriving Repr, DecidableEq

def LineEnd.chars : LineEnd → List Char
  | .feed => ['\n']
  | .returnFeed => ['\r', '\n']

/-- The line of a file, without its end. -/
def fileLine (file : String × Nat) : List Char :=
  file.1.toList ++ '\t' :: (Numeral.decimal file.2).toList

/-- A file that has a line: its name ends neither itself nor the line, and its size has 64 bits. -/
structure Listable (file : String × Nat) : Prop where
  noTab : '\t' ∉ file.1.toList
  noFeed : '\n' ∉ file.1.toList
  size_lt : file.2 < 2 ^ 64

/-- The texts that list some files, in order. -/
inductive Lists : List (String × Nat) → List Char → Prop
  | nothing : Lists [] []
  /-- The last line need not end. -/
  | last (file : String × Nat) : Lists [file] (fileLine file)
  | file (file : String × Nat) (lineEnd : LineEnd) {files : List (String × Nat)} {rest : List Char}
      (h : Lists files rest) : Lists (file :: files) (fileLine file ++ (lineEnd.chars ++ rest))
  /-- An empty line lists nothing. -/
  | blank (lineEnd : LineEnd) {files : List (String × Nat)} {rest : List Char}
      (h : Lists files rest) : Lists files (lineEnd.chars ++ rest)

/-! ## One line -/

namespace LineEnd

theorem chars_ne_nil (lineEnd : LineEnd) : lineEnd.chars ≠ [] := by
  cases lineEnd <;> exact List.cons_ne_nil _ _

theorem dropLineEnds_chars (lineEnd : LineEnd) : Text.dropLineEnds lineEnd.chars = [] := by
  cases lineEnd <;> rfl

/-- However a line ends, no more than its end is taken off. -/
theorem lines_append_chars (lineEnd : LineEnd) {line : List Char} (hfeed : '\n' ∉ line)
    (hreturn : Text.dropReturn line = line) (rest : List Char) :
    Text.lines (line ++ (lineEnd.chars ++ rest)) = line :: Text.lines rest := by
  cases lineEnd with
  | feed =>
      rw [chars, List.singleton_append, Text.lines_append_feed hfeed, hreturn]
  | returnFeed =>
      have hmem : '\n' ∉ line ++ ['\r'] := by simpa using hfeed
      have hsplit : line ++ (['\r', '\n'] ++ rest) = line ++ ['\r'] ++ '\n' :: rest := by simp
      rw [chars, hsplit, Text.lines_append_feed hmem, Text.dropReturn_append_return]

end LineEnd

variable {file : String × Nat}

theorem fileLine_ne_nil (file : String × Nat) : fileLine file ≠ [] :=
  List.append_ne_nil_of_right_ne_nil _ (List.cons_ne_nil _ _)

/-- A line ends in the last digit of the size. -/
theorem exists_getLast?_fileLine (file : String × Nat) :
    ∃ c, (fileLine file).getLast? = some c ∧ c.isDigit = true := by
  have hne := Numeral.decimal_ne_nil file.2
  refine ⟨(Numeral.decimal file.2).toList.getLast hne, ?_,
    Numeral.isDigit_decimal (List.getLast_mem hne)⟩
  rw [fileLine, List.getLast?_append_cons, List.getLast?_cons_of_ne_nil hne,
    List.getLast?_eq_some_getLast hne]

theorem dropLineEnds_fileLine (file : String × Nat) :
    Text.dropLineEnds (fileLine file) = fileLine file := by
  obtain ⟨c, hlast, hdigit⟩ := exists_getLast?_fileLine file
  refine Text.dropEnd_of_last hlast ?_
  rw [Bool.or_eq_false_iff, beq_eq_false_iff_ne, beq_eq_false_iff_ne]
  constructor <;> (rintro rfl; cases hdigit)

theorem dropReturn_fileLine (file : String × Nat) :
    Text.dropReturn (fileLine file) = fileLine file := by
  obtain ⟨c, hlast, hdigit⟩ := exists_getLast?_fileLine file
  refine Text.dropReturn_of_last ?_
  rw [hlast]
  rintro ⟨⟩
  cases hdigit

theorem Listable.feed_not_mem (h : Listable file) : '\n' ∉ fileLine file := by
  rw [fileLine, List.mem_append, List.mem_cons, not_or, not_or]
  refine ⟨h.noFeed, by decide, fun hmem => ?_⟩
  cases Numeral.isDigit_decimal hmem

theorem trim_decimal (n : Nat) :
    Text.trim (Numeral.decimal n).toList = (Numeral.decimal n).toList := by
  have hne := Numeral.decimal_ne_nil n
  exact Text.trim_of_ends (List.head?_eq_some_head hne) (List.getLast?_eq_some_getLast hne)
    (Text.not_isBlank_of_isDigit (Numeral.isDigit_decimal (List.head_mem hne)))
    (Text.not_isBlank_of_isDigit (Numeral.isDigit_decimal (List.getLast_mem hne)))

/-- The line of a file is read as the file. -/
theorem Listable.entry_fileLine (h : Listable file) :
    Reading.entry (fileLine file) = .ok file := by
  have hread : Numeral.read Numeral.wordLimit (Numeral.decimal file.2).toList = .ok file.2 :=
    Numeral.read_decimal h.size_lt
  rw [Reading.entry, fileLine, Text.splitAt?_append h.noTab]
  simp only [trim_decimal, hread, String.ofList_toList]

/-- What is read as a file has the name that is read without the size. -/
theorem entryName_of_entry {line : List Char} (h : Reading.entry line = .ok file) :
    Reading.entryName line = file.1 := by
  unfold Reading.entry at h
  split at h
  next => cases h
  next name size hsplit =>
    split at h
    next =>
      cases h
      rw [Reading.entryName, Text.takeWhile_of_splitAt? hsplit]
    next => cases h

/-! ## The lines of a listing -/

namespace Lists

variable {files : List (String × Nat)} {text : List Char}

theorem eq_nil_of_nil (h : Lists files []) : files = [] := by
  generalize htext : [] = text at h
  cases h with
  | nothing => rfl
  | last file => exact absurd htext.symm (fileLine_ne_nil file)
  | file file => exact absurd (List.append_eq_nil_iff.mp htext.symm).1 (fileLine_ne_nil file)
  | blank lineEnd => exact absurd (List.append_eq_nil_iff.mp htext.symm).1 lineEnd.chars_ne_nil

/-- Line ends that are cut off at the end leave a listing of the same files. -/
theorem dropLineEnds (h : Lists files text) : Lists files (Text.dropLineEnds text) := by
  induction h with
  | nothing => exact .nothing
  | last file =>
      rw [dropLineEnds_fileLine]
      exact .last file
  | @file file lineEnd files rest h ih =>
      rw [Text.dropLineEnds_append (fileLine file), Text.dropLineEnds_append lineEnd.chars,
        lineEnd.dropLineEnds_chars, dropLineEnds_fileLine]
      -- if nothing is left behind the line, its own end goes as well
      by_cases hrest : Text.dropLineEnds rest = []
      · rw [hrest] at ih
        rw [if_pos hrest, if_pos rfl, ih.eq_nil_of_nil]
        exact .last file
      · rw [if_neg hrest, if_neg (List.append_ne_nil_of_right_ne_nil _ hrest)]
        exact .file file lineEnd ih
  | @blank lineEnd files rest h ih =>
      rw [Text.dropLineEnds_append lineEnd.chars, lineEnd.dropLineEnds_chars]
      by_cases hrest : Text.dropLineEnds rest = []
      · rw [if_pos hrest]
        rwa [hrest] at ih
      · rw [if_neg hrest]
        exact .blank lineEnd ih

theorem lines (h : Lists files text) (hfiles : ∀ file ∈ files, Listable file) :
    (Text.lines text).filter (fun line => !line.isEmpty) = files.map fileLine := by
  induction h with
  | nothing => rfl
  | last file =>
      have hfile := hfiles file List.mem_cons_self
      rw [Text.lines_of_last hfile.feed_not_mem (fileLine_ne_nil file)]
      exact List.filter_cons_of_pos (by simp [fileLine_ne_nil])
  | @file file lineEnd files rest h ih =>
      obtain ⟨hfile, hothers⟩ := List.forall_mem_cons.mp hfiles
      rw [lineEnd.lines_append_chars hfile.feed_not_mem (dropReturn_fileLine file),
        List.filter_cons_of_pos (by simp [fileLine_ne_nil]), ih hothers, List.map_cons]
  | @blank lineEnd files rest h ih =>
      have hblank := lineEnd.lines_append_chars List.not_mem_nil rfl rest
      rw [List.nil_append] at hblank
      rw [hblank, List.filter_cons_of_neg (by simp), ih hfiles]

theorem listing (h : Lists files text) (hfiles : ∀ file ∈ files, Listable file) :
    Reading.listing (Utf8.encode (String.ofList text)) = .ok (files.map fileLine) := by
  rw [← h.dropLineEnds.lines hfiles, Reading.listing, Reading.text, Utf8.decode_encode]
  simp only [bind, Except.bind, pure, Except.pure, String.toList_ofList]

end Lists

theorem fileNames_of_fileSizes {payload : Bytes} {files : List (String × Nat)}
    (h : Reading.fileSizes payload = .ok files) :
    Reading.fileNames payload = .ok (files.map Prod.fst) := by
  obtain ⟨lines, hlines, hentries⟩ := bind_eq_ok_iff.mp h
  refine bind_eq_ok_iff.mpr ⟨lines, hlines, ?_⟩
  exact congrArg Except.ok (map_eq_of_mapM hentries fun _ _ => entryName_of_entry)

/-- Any files whose names hold neither tabs nor line feeds, and whose sizes have 64 bits, come back
from any text that lists them, in order and with nothing else, and so do their names alone. And
wherever sizes can be read, in whatever answer, the names can be read, too, and are the same. -/
theorem listings_come_back :
    (∀ files text, (∀ file ∈ files, Listable file) → Lists files text →
      Reading.fileSizes (Utf8.encode (String.ofList text)) = .ok files ∧
        Reading.fileNames (Utf8.encode (String.ofList text)) = .ok (files.map Prod.fst)) ∧
    ∀ payload files, Reading.fileSizes payload = .ok files →
      Reading.fileNames payload = .ok (files.map Prod.fst) := by
  refine ⟨fun files text hfiles htext => ?_, fun payload files => fileNames_of_fileSizes⟩
  have hsizes : Reading.fileSizes (Utf8.encode (String.ofList text)) = .ok files := by
    refine bind_eq_ok_iff.mpr ⟨_, htext.listing hfiles, mapM_eq_ok_iff.mpr ?_⟩
    rw [List.forall₂_map_left_iff, List.forall₂_same]
    exact fun file hfile => (hfiles file hfile).entry_fileLine
  exact ⟨hsizes, fileNames_of_fileSizes hsizes⟩

/-- One name holds a carriage return, one is empty, and one ends in a blank and a carriage return.
Lines end in both ways, some are empty, and the last one does not end. -/
theorem listings_come_back_mixed :
    let files := [("a\rb", 0), ("", 18446744073709551615), ("log \r", 12)]
    let text := ['\r', '\n'] ++ (fileLine ("a\rb", 0) ++ (['\r', '\n'] ++ (['\n'] ++
      (fileLine ("", 18446744073709551615) ++ (['\n'] ++ fileLine ("log \r", 12))))))
    (∀ file ∈ files, Listable file) ∧ Lists files text ∧
      Reading.fileSizes (Utf8.encode (String.ofList text)) = .ok files ∧
      Reading.fileNames (Utf8.encode (String.ofList text)) = .ok ["a\rb", "", "log \r"] := by
  intro files text
  have hfiles : ∀ file ∈ files, Listable file := by
    simp only [files, List.forall_mem_cons]
    exact ⟨⟨by decide, by decide, by decide⟩, ⟨by decide, by decide, by decide⟩,
      ⟨by decide, by decide, by decide⟩, nofun⟩
  have htext : Lists files text :=
    .blank .returnFeed (.file _ .returnFeed (.blank .feed (.file _ .feed (.last _))))
  exact ⟨hfiles, htext, listings_come_back.1 files text hfiles htext⟩

end GroundLink.Command
