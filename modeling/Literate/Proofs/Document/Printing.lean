import Literate.Document.Basic
import Literate.Proofs.Document.Patterns
import Literate.Proofs.Header
import Literate.Proofs.Text.Lines

/-!
# Printing blocks and scanning them back

A block is printed as an optional line with its name, a first line with its
language and its header arguments, its body with the lines protected that could
be taken for something else, and a last line.  The first line carries the switch
that keeps the indentation of the body.

**Printed lines.**  `classify_nameLine` and `classify_beginLine` say what the
lines around the body are taken for, `isBlockEnd_protectLine` that no body line
ends the block, and `fileArguments?_printedLines` that no printed line sets
arguments for the whole file.

**Main statements.**
* `scanFrom_printedLines`: the printed lines of one block yield that block.
* `scan_print`: the printed text of blocks yields these blocks.
* `scanned_print`: scanning a document undoes printing.
-/

namespace Literate
namespace Document

/-- What a block is printed from. -/
structure Description where
  /-- The name given in front of the block. -/
  name : Option Text
  /-- The language. -/
  language : Text
  /-- The header arguments in order. -/
  arguments : List (Text × Text)
  /-- The lines of the body. -/
  lines : List Text

namespace Description

/-- The texts that a description holds, apart from the keys of its arguments. -/
def texts (d : Description) : List Text :=
  d.name.toList ++ d.language :: d.arguments.map Prod.snd ++ d.lines

/-- A description that can be printed. -/
structure Printable (d : Description) : Prop where
  /-- The name neither is empty nor has blanks around it. -/
  name : ∀ name ∈ d.name, name ≠ [] ∧ Text.trim name = name
  /-- There is a language. -/
  language_ne_nil : d.language ≠ []
  /-- The language is a single word. -/
  language_word : ∀ c ∈ d.language, Text.isBlank c = false
  /-- The language does not look like an argument. -/
  language_start : d.language.head? ≠ some ':'
  /-- Keys and values can be printed. -/
  arguments : ∀ argument ∈ d.arguments, Header.isKey argument.1 = true ∧ Header.PlainValue argument.2
  /-- No key is given twice. -/
  distinct : (d.arguments.map Prod.fst).Nodup
  /-- No text holds a line end. -/
  oneLine : ∀ t ∈ d.texts, ∀ c ∈ t, Text.isLineEnd c = false

/-- The line that names the block. -/
def nameLine (name : Text) : Text :=
  "#+name: " ++ name

/-- The first line of the block. -/
def beginLine (d : Description) : Text :=
  "#+begin_src " ++ d.language ++ " -i" ++ Header.argumentsText d.arguments

/-- The last line of a block. -/
def endLine : Text :=
  "#+end_src"

/-- The lines of the printed block. -/
def printedLines (d : Description) : List Text :=
  d.name.toList.map nameLine ++ d.beginLine :: d.lines.map protectLine ++ [endLine]

/-- The block that stands on the printed lines when other lines stand before them. -/
def block (path : Option Path) (before : Nat) (d : Description) : DocumentBlock where
  language := d.language
  name := d.name
  params := ⟨d.arguments⟩
  body := Text.join "\n" d.lines
  link :=
    { path := path
      line := before + d.name.toList.length + 1
      heading := none }

/-- The blocks that stand on the printed lines of descriptions. -/
def blocks (path : Option Path) (before : Nat) : List Description → List DocumentBlock
  | [] => []
  | d :: rest => d.block path before :: blocks path (before + d.printedLines.length) rest

/-- The printed text of descriptions. -/
def print (ds : List Description) : Text :=
  Text.unlines (ds.flatMap printedLines)

end Description

section Lines

theorem keyword?_hash
    (key t : Text) :
    keyword? key ('#' :: t) = Text.dropKeyword? key ('#' :: t) := by
  rw [keyword?, Text.trimLeft_cons _ (by decide)]

theorem classify_nameLine
    {name : Text}
    (h : Text.trim name = name) :
    classify (Description.nameLine name) = .name name := by
  have hkeyword : keyword? "#+name:" (Description.nameLine name) = some (' ' :: name) :=
    (keyword?_hash _ _).trans (Text.dropKeyword?_append "#+name:" (' ' :: name))
  rw [classify_eq_name_iff, name?, hkeyword, Option.map_some, Text.trim_space_cons, h]

/-- What follows the language on the first line. -/
def Description.switchesAndArguments (d : Description) : Text :=
  " -i" ++ Header.argumentsText d.arguments

theorem beginLine_eq
    (d : Description) :
    d.beginLine = "#+begin_src" ++ ' ' :: (d.language ++ d.switchesAndArguments) := by
  unfold Description.beginLine Description.switchesAndArguments
  simp

theorem takeWhile_word_append
    {word t : Text}
    (hword : ∀ c ∈ word, Text.isBlank c = false)
    (ht : ∀ c ∈ t.head?, Text.isBlank c = true) :
    (word ++ t).takeWhile (fun c => !Text.isBlank c) = word ∧
      (word ++ t).dropWhile (fun c => !Text.isBlank c) = t := by
  have hall : ∀ c ∈ word, (!Text.isBlank c) = true := by
    simpa using hword
  rw [List.takeWhile_append_of_pos hall, List.dropWhile_append_of_pos hall]
  cases t with
  | nil =>
      simp
  | cons c t =>
      simp [ht c rfl]

theorem blockBegin?_beginLine
    {d : Description}
    (h : d.Printable) :
    blockBegin? d.beginLine = some (d.language, d.switchesAndArguments) := by
  have hkeyword :
      keyword? "#+begin_src" d.beginLine = some (' ' :: (d.language ++ d.switchesAndArguments)) := by
    rw [beginLine_eq]
    exact (keyword?_hash _ _).trans (Text.dropKeyword?_append "#+begin_src" _)
  obtain ⟨htake, hdrop⟩ := takeWhile_word_append (t := d.switchesAndArguments) h.language_word (by
    rintro c ⟨⟩
    exact Text.isBlank_space)
  cases hlanguage : d.language with
  | nil =>
      exact absurd hlanguage h.language_ne_nil
  | cons c word =>
      have hblank : Text.isBlank c = false := h.language_word c (by simp [hlanguage])
      have hspace : c ≠ ' ' := by
        rintro rfl
        simp [Text.isBlank_space] at hblank
      have htab : c ≠ '\t' := by
        rintro rfl
        revert hblank
        decide
      have hcolon : c ≠ ':' := by
        rintro rfl
        exact h.language_start (by simp [hlanguage])
      rw [hlanguage] at hkeyword htake hdrop
      have hindented :
          (' ' :: (c :: word ++ d.switchesAndArguments)).dropWhile (fun c => c == ' ' || c == '\t') =
            c :: word ++ d.switchesAndArguments := by
        simp [hspace, htab]
      simp only [blockBegin?, hkeyword, hindented, htake, hdrop]
      rw [if_neg]
      simp [hcolon]

theorem classify_beginLine
    {d : Description}
    (h : d.Printable) :
    classify d.beginLine = .blockBegin d.language d.switchesAndArguments :=
  classify_eq_blockBegin_iff.mpr (blockBegin?_beginLine h)

theorem isBlockEnd_protectLine
    (line : Text) :
    isBlockEnd (protectLine line) = false := by
  unfold isBlockEnd
  rw [show ("#+end_src" : Text) = '#' :: '+' :: "end_src" from rfl, keyword?_protectLine]

theorem isBlockEnd_endLine :
    isBlockEnd Description.endLine = true := by
  decide

/-- No printed line sets arguments for the whole file. -/
theorem fileArguments?_printedLines
    {d : Description} {line : Text}
    (h : line ∈ d.printedLines) :
    fileArguments? line = none := by
  have hkeyword : keyword? "#+property:" line = none := by
    simp only [Description.printedLines, List.mem_append, List.mem_map, List.mem_cons,
      List.not_mem_nil, or_false] at h
    rcases h with (⟨name, -, rfl⟩ | rfl | ⟨body, -, rfl⟩) | rfl
    · exact keyword?_hash _ _
    · rw [beginLine_eq]
      exact keyword?_hash _ _
    · exact keyword?_protectLine "property:" body
    · exact keyword?_hash _ _
  rw [fileArguments?, hkeyword]

theorem fileLayer_eq_empty
    {lines : List Text}
    (h : ∀ line ∈ lines, fileArguments? line = none) :
    fileLayer lines = Dictionary.empty := by
  unfold fileLayer
  induction lines with
  | nil =>
      rfl
  | cons line lines ih =>
      rw [List.foldl_cons, h line (by simp)]
      exact ih fun other hother => h other (List.mem_cons_of_mem _ hother)

theorem isLineEnd_argumentsText
    {arguments : List (Text × Text)}
    (hkeys : ∀ argument ∈ arguments, Header.isKey argument.1 = true)
    (hvalues : ∀ argument ∈ arguments, ∀ c ∈ argument.2, Text.isLineEnd c = false) :
    ∀ c ∈ Header.argumentsText arguments, Text.isLineEnd c = false := by
  intro c hc
  simp only [Header.argumentsText, Header.argumentText, List.mem_flatMap, List.mem_cons,
    List.mem_append] at hc
  obtain ⟨argument, hargument, rfl | rfl | hkey | rfl | hvalue⟩ := hc
  · decide
  · decide
  · exact Text.isLineEnd_eq_false_of_isBlank
      (Header.isBlank_eq_false_of_mem_key (hkeys argument hargument) hkey)
  · decide
  · exact hvalues argument hargument c hvalue

/-- No printed line holds a line end. -/
theorem isLineEnd_printedLines
    {d : Description} {line : Text}
    (h : d.Printable)
    (hline : line ∈ d.printedLines) :
    ∀ c ∈ line, Text.isLineEnd c = false := by
  have htexts : ∀ t ∈ d.texts, ∀ c ∈ t, Text.isLineEnd c = false := h.oneLine
  simp only [Description.texts, List.mem_append, List.mem_cons, List.mem_map,
    Option.mem_toList] at htexts
  simp only [Description.printedLines, List.mem_append, List.mem_map, List.mem_cons,
    List.not_mem_nil, or_false, Option.mem_toList] at hline
  rcases hline with (⟨name, hname, rfl⟩ | rfl | ⟨body, hbody, rfl⟩) | rfl
  · intro c hc
    rcases List.mem_append.mp hc with hkeyword | hmem
    · exact Text.isLineEnd_of_mem (by decide) hkeyword
    · exact htexts name (Or.inl (Or.inl hname)) c hmem
  · intro c hc
    unfold Description.beginLine at hc
    simp only [List.mem_append] at hc
    rcases hc with ((hkeyword | hlanguage) | hswitch) | harguments
    · exact Text.isLineEnd_of_mem (by decide) hkeyword
    · exact htexts d.language (Or.inl (Or.inr (Or.inl rfl))) c hlanguage
    · exact Text.isLineEnd_of_mem (by decide) hswitch
    · refine isLineEnd_argumentsText (fun argument hargument => (h.arguments argument hargument).1)
        (fun argument hargument => ?_) c harguments
      exact htexts argument.2 (Or.inl (Or.inr (Or.inr ⟨argument, hargument, rfl⟩)))
  · exact isLineEnd_protectLine (htexts body (Or.inr hbody))
  · intro c hc
    exact Text.isLineEnd_of_mem (by decide) hc

end Lines

section Scanning

/-- The first line is cut before its arguments, which are read back. -/
theorem exists_splitSwitches
    {d : Description}
    (h : d.Printable) :
    ∃ switches arguments,
      Header.splitSwitches true d.switchesAndArguments = (switches, arguments) ∧
      (Text.fields switches).contains "-i" = true ∧
      Header.parse arguments = ⟨d.arguments⟩ := by
  have hparse := Header.parse_arguments h.arguments h.distinct
  unfold Description.switchesAndArguments
  cases harguments : d.arguments with
  | nil =>
      exact ⟨" -i", [], rfl, by decide, rfl⟩
  | cons argument others =>
      obtain ⟨key, value⟩ := argument
      have hkey := (h.arguments (key, value) (by simp [harguments])).1
      have hletter :=
        Header.startsWithLetter_key (' ' :: (value ++ Header.argumentsText others)) hkey
      have htext :
          Header.argumentsText ((key, value) :: others) =
            ' ' :: ':' :: (key ++ ' ' :: (value ++ Header.argumentsText others)) := by
        simp [Header.argumentsText, Header.argumentText]
      rw [harguments, htext] at hparse
      rw [htext]
      refine ⟨" -i ", ':' :: (key ++ ' ' :: (value ++ Header.argumentsText others)), ?_, by decide, ?_⟩
      · simp [Header.splitSwitches, hletter, Text.isBlank_space]
      · rw [← hparse, Header.parse, Header.parse, Text.trim_space_cons]

theorem blockParams_empty
    (path : Option Path) (language arguments : Text)
    (h : (Header.parse arguments).keys.Nodup) :
    blockParams ⟨path, Dictionary.empty⟩ [] language arguments = Header.parse arguments := by
  have hlayer : Layer.apply language Dictionary.empty Dictionary.empty = Dictionary.empty := by
    unfold Layer.apply
    split <;> rfl
  simp only [blockParams, List.reverse_nil, List.map_nil, List.foldl_cons, List.foldl_nil, hlayer]
  rw [Dictionary.update_of_nodup (by simpa [Dictionary.keys, Dictionary.empty] using h)]
  rfl

/-- The opening that the first line of a printed block makes. -/
theorem opening_printed
    {d : Description} (path : Option Path) (line : Nat) (pending : Option Text)
    (h : d.Printable) :
    ScanState.opening ⟨path, Dictionary.empty⟩ { line := line, pending := pending } d.language
        d.switchesAndArguments =
      { language := d.language
        name := pending
        params := ⟨d.arguments⟩
        keepsIndent := true
        link := { path := path, line := line + 1, heading := none } } := by
  obtain ⟨switches, arguments, hsplit, hkeeps, hparse⟩ := exists_splitSwitches h
  have hparams := blockParams_empty path d.language arguments (by
    rw [hparse]
    exact h.distinct)
  simp only [ScanState.opening, hsplit, hkeeps, hparams, hparse]
  rfl

/-- The result of a scan with one more block in front. -/
def Scan.prepend (block : DocumentBlock) (scan : Scan) : Scan :=
  { scan with blocks := block :: scan.blocks }

theorem scanFrom_of_read_none
    {context : ScanContext} {state next : ScanState} {line : Text} (rest : List Text)
    (h : state.read context line = (next, none)) :
    scanFrom context state (line :: rest) = scanFrom context next rest := by
  rw [scanFrom, h]
  rfl

theorem scanFrom_of_read_some
    {context : ScanContext} {state next : ScanState} {line : Text} {block : DocumentBlock}
    (rest : List Text)
    (h : state.read context line = (next, some block)) :
    scanFrom context state (line :: rest) = (scanFrom context next rest).prepend block := by
  rw [scanFrom, h]
  rfl

/-- The lines of a body and the line after them close the block. -/
theorem scanFrom_body
    (context : ScanContext) (line : Nat) (opening : Opening) (read : List Text)
    {body : List Text} {last : Text} (rest : List Text)
    (hbody : ∀ l ∈ body, isBlockEnd l = false)
    (hlast : isBlockEnd last = true) :
    scanFrom context { line := line, opened := some (opening, read) } (body ++ last :: rest) =
      (scanFrom context { line := line + body.length + 1 } rest).prepend
        (opening.close (read.reverse ++ body)) := by
  induction body generalizing line read with
  | nil =>
      have hread :
          ScanState.read context { line := line, opened := some (opening, read) } last =
            ({ line := line + 1 }, some (opening.close read.reverse)) :=
        if_pos hlast
      rw [List.nil_append, List.append_nil, scanFrom_of_read_some rest hread]
      rfl
  | cons l body ih =>
      have hl : ¬ isBlockEnd l = true := by
        simp [hbody l (by simp)]
      have hothers : ∀ other ∈ body, isBlockEnd other = false := fun other hother =>
        hbody other (List.mem_cons_of_mem _ hother)
      have hread :
          ScanState.read context { line := line, opened := some (opening, read) } l =
            ({ line := line + 1, opened := some (opening, l :: read) }, none) :=
        if_neg hl
      rw [List.cons_append, scanFrom_of_read_none _ hread, ih (line + 1) (l :: read) hothers]
      simp [Nat.add_right_comm, Nat.add_assoc]

theorem bodyOfLines_protectLine
    (lines : List Text) :
    bodyOfLines true (lines.map protectLine) = Text.join "\n" lines := by
  have hlines : (lines.map protectLine).map unescapeLine = lines := by
    rw [List.map_map]
    exact List.map_id'' unescapeLine_protectLine lines
  rw [bodyOfLines, if_pos rfl, hlines]

theorem read_nameLine
    (context : ScanContext) (line : Nat) {name : Text}
    (hne : name ≠ [])
    (h : Text.trim name = name) :
    ScanState.read context { line := line } (Description.nameLine name) =
      ({ line := line + 1, pending := some name }, none) := by
  simp [ScanState.read, ScanState.readOutside, classify_nameLine h, hne]

theorem read_beginLine
    (context : ScanContext) (line : Nat) (pending : Option Text) {d : Description}
    (h : d.Printable) :
    ScanState.read context { line := line, pending := pending } d.beginLine =
      ({ line := line + 1
         opened := some
          (ScanState.opening context { line := line, pending := pending } d.language
            d.switchesAndArguments, []) }, none) := by
  simp [ScanState.read, ScanState.readOutside, classify_beginLine h]

/-- The first line, the body and the last line of a printed block yield the block. -/
theorem scanFrom_beginLine
    (path : Option Path) (line : Nat) (rest : List Text) {d : Description}
    (h : d.Printable) :
    scanFrom ⟨path, Dictionary.empty⟩ { line := line, pending := d.name }
        (d.beginLine :: (d.lines.map protectLine ++ Description.endLine :: rest)) =
      (scanFrom ⟨path, Dictionary.empty⟩ { line := line + d.lines.length + 2 } rest).prepend
        { language := d.language
          name := d.name
          params := ⟨d.arguments⟩
          body := Text.join "\n" d.lines
          link := { path := path, line := line + 1, heading := none } } := by
  have hbody : ∀ l ∈ d.lines.map protectLine, isBlockEnd l = false := by
    intro l hl
    obtain ⟨original, -, rfl⟩ := List.mem_map.mp hl
    exact isBlockEnd_protectLine original
  rw [scanFrom_of_read_none _ (read_beginLine _ line d.name h), opening_printed path line d.name h,
    scanFrom_body _ _ _ _ rest hbody isBlockEnd_endLine]
  simp [Opening.close, bodyOfLines_protectLine, Nat.add_right_comm]

theorem scanFrom_nameLines
    (context : ScanContext) (line : Nat) (rest : List Text) {d : Description}
    (h : d.Printable) :
    scanFrom context { line := line } (d.name.toList.map Description.nameLine ++ rest) =
      scanFrom context { line := line + d.name.toList.length, pending := d.name } rest := by
  cases hname : d.name with
  | none =>
      rfl
  | some name =>
      obtain ⟨hne, htrim⟩ := h.name name hname
      exact scanFrom_of_read_none rest (read_nameLine context line hne htrim)

/-- The printed lines of one block yield that block. -/
theorem scanFrom_printedLines
    (path : Option Path) (line : Nat) (rest : List Text) {d : Description}
    (h : d.Printable) :
    scanFrom ⟨path, Dictionary.empty⟩ { line := line } (d.printedLines ++ rest) =
      (scanFrom ⟨path, Dictionary.empty⟩ { line := line + d.printedLines.length } rest).prepend
        (d.block path line) := by
  have hsplit :
      d.printedLines ++ rest =
        d.name.toList.map Description.nameLine ++
          d.beginLine :: (d.lines.map protectLine ++ Description.endLine :: rest) := by
    simp [Description.printedLines]
  have hlength :
      line + d.printedLines.length = line + d.name.toList.length + d.lines.length + 2 := by
    simp only [Description.printedLines, List.length_append, List.length_map, List.length_cons,
      List.length_nil]
    omega
  rw [hsplit, hlength, scanFrom_nameLines _ line _ h, scanFrom_beginLine path _ rest h]
  rfl

/-- The printed lines of any number of blocks yield these blocks. -/
theorem scanFrom_flatMap_printedLines
    (path : Option Path) (line : Nat) {ds : List Description}
    (h : ∀ d ∈ ds, d.Printable) :
    scanFrom ⟨path, Dictionary.empty⟩ { line := line } (ds.flatMap Description.printedLines) =
      ⟨Description.blocks path line ds, none⟩ := by
  induction ds generalizing line with
  | nil =>
      rfl
  | cons d ds ih =>
      rw [List.flatMap_cons, scanFrom_printedLines path line _ (h d (by simp)),
        ih (line + d.printedLines.length) fun other hother => h other (List.mem_cons_of_mem _ hother)]
      rfl

theorem scan_print
    (path : Option Path) {ds : List Description}
    (h : ∀ d ∈ ds, d.Printable) :
    scan path (Description.print ds) = ⟨Description.blocks path 0 ds, none⟩ := by
  have hlines : Text.lines (Description.print ds) = ds.flatMap Description.printedLines := by
    apply Text.lines_unlines
    intro line hline
    obtain ⟨d, hd, hmem⟩ := List.mem_flatMap.mp hline
    exact isLineEnd_printedLines (h d hd) hmem
  have hlayer : fileLayer (ds.flatMap Description.printedLines) = Dictionary.empty := by
    apply fileLayer_eq_empty
    intro line hline
    obtain ⟨d, -, hmem⟩ := List.mem_flatMap.mp hline
    exact fileArguments?_printedLines hmem
  rw [scan, hlines, hlayer]
  exact scanFrom_flatMap_printedLines path 0 h

/-- **Scanning undoes printing.**  The document made of the printed text of blocks shows exactly these
blocks, in their order and on their lines, and no block without an end. -/
theorem scanned_print
    (surroundings : Surroundings) (path : Option Path) (ds : List Description)
    (hpath : ∀ p ∈ path, p.hasNull = false)
    (h : ∀ d ∈ ds, d.Printable) :
    ∃ document : Document,
      ofText surroundings (Description.print ds) path = .ok document ∧
      document.path = path.map surroundings.resolved ∧
      document.scanned = ⟨Description.blocks document.path 0 ds, none⟩ := by
  cases path with
  | none =>
      exact ⟨{ text := Description.print ds }, rfl, rfl, scan_print none h⟩
  | some p =>
      have hresolve : resolvePath surroundings p = .ok (surroundings.resolved p) := by
        rw [resolvePath, hpath p rfl]
        rfl
      refine ⟨{ text := Description.print ds, path := some (surroundings.resolved p) }, ?_, rfl,
        scan_print _ h⟩
      rw [ofText, hresolve]
      rfl

/-- Body lines that look like a heading, an end, a file-wide argument or a protected line come back. -/
theorem scanned_print_lookalikes :
    let first : Description :=
      ⟨some "n", "sh", [("tangle", "1 :2"), ("var", "")],
        ["* top", "  ,,#+end_src", "", "#+property: header-args :x y"]⟩
    let second : Description := ⟨none, "c:", [], [",*", "#+begin_src"]⟩
    (∀ d ∈ [first, second], d.Printable) ∧
      ∃ document : Document,
        ofText { directory := ⟨.root, []⟩, home := ⟨.root, []⟩ } (Description.print [first, second]) none =
          .ok document ∧
        document.scanned.blocks.map DocumentBlock.body =
          ["* top\n  ,,#+end_src\n\n#+property: header-args :x y", ",*\n#+begin_src"] ∧
        document.scanned.blocks.map (fun block => block.link.line) = [2, 8] := by
  intro first second
  have hcolon : Header.PlainValue "1 :2" := by
    refine ⟨by decide, ?_, by simp, ?_⟩
    · rintro q inner (rfl | rfl) <;> simp
    · intro before b c rest h hblank
      rcases before with - | ⟨d, - | ⟨e, before⟩⟩
      · simp at h
      · simp only [List.cons_append, List.nil_append] at h
        cases h
        decide
      · have hlength := congrArg List.length h
        simp at hlength
        omega
  have hempty : Header.PlainValue [] := by
    refine ⟨by decide, by simp, by simp, by simp⟩
  have hwords : ∀ d ∈ [first, second], ∀ c ∈ d.language, Text.isBlank c = false := by
    simp [first, second, Text.isBlank_eq_false_of_toNat]
  have honeLine : ∀ d ∈ [first, second], ∀ t ∈ d.texts, ∀ c ∈ t, Text.isLineEnd c = false := by
    intro d hd t ht c hc
    have hall : ∀ d ∈ [first, second], ∀ t ∈ d.texts, t.all (fun c => !Text.isLineEnd c) = true := by
      decide
    exact Text.isLineEnd_of_mem (hall d hd t ht) hc
  have hfirst : first.Printable := by
    refine ⟨by decide, by decide, hwords first (by simp), by decide, ?_, by decide,
      honeLine first (by simp)⟩
    simp only [first, List.forall_mem_cons]
    exact ⟨⟨by decide, hcolon⟩, ⟨by decide, hempty⟩, by simp⟩
  have hsecond : second.Printable := by
    exact ⟨by decide, by decide, hwords second (by simp), by decide, by simp [second], by decide,
      honeLine second (by simp)⟩
  have hprintable : ∀ d ∈ [first, second], d.Printable := by
    simp [hfirst, hsecond]
  obtain ⟨document, hdocument, hpath, hscanned⟩ :=
    scanned_print { directory := ⟨.root, []⟩, home := ⟨.root, []⟩ } none [first, second] (by decide)
      hprintable
  refine ⟨hprintable, document, hdocument, ?_, ?_⟩
  · rw [hscanned]
    rfl
  · rw [hscanned]
    rfl

end Scanning

end Document
end Literate
