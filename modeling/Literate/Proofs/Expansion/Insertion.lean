import Literate.Proofs.Expansion.Bodies

/-!
# Insertion into a line

A reference in a line is replaced by what it stands for, and the text in front
of it on the line is repeated on every further line that comes in.  The text in
front may itself come from an earlier reference, so every law below is carried
from reference to reference along the text that has been built so far.

**Separation.**  Resolving the references and building the text are separate:
`expandPieces_eq_insertAll` and `expandBody_eq_map` say that an expansion first
resolves the names in order and then applies a function to the results.

**Main statements.**
* `splitOn_splice`: the lines after one insertion.
* `insertedLine_insertAll`: the lines after all insertions.
* `expansion_repeats_front`: both, for lines and bodies.
-/

namespace Literate

/-- The part of a text in front of its first line feed. -/
def Text.firstLine (t : Text) : Text :=
  (Text.splitOn '\n' t).headD []

namespace Reference

/-- Pieces as the text in front of the first reference, and the references with the text behind each. -/
def segments : List Piece → Text × List (Text × Text)
  | [] => ([], [])
  | .literal t :: rest => (t ++ (segments rest).1, (segments rest).2)
  | .reference name :: rest => ([], (name, (segments rest).1) :: (segments rest).2)

/-- A line as the text in front of its first reference, and the references with the text behind each. -/
def split (line : Text) : Text × List (Text × Text) :=
  segments (pieces line)

theorem map_fst_segments
    (ps : List Piece) :
    (segments ps).2.map Prod.fst = ps.filterMap Piece.name? := by
  induction ps with
  | nil =>
      rfl
  | cons p ps ih =>
      cases p with
      | literal t =>
          exact ih
      | reference name =>
          simp [segments, ih]

theorem text_segments
    (ps : List Piece) :
    (segments ps).1 ++ (segments ps).2.flatMap (fun part => (Piece.reference part.1).text ++ part.2) =
      ps.flatMap Piece.text := by
  induction ps with
  | nil =>
      rfl
  | cons p ps ih =>
      cases p <;> simp [segments, Piece.text, ← ih]

theorem text_split
    (line : Text) :
    (split line).1 ++ (split line).2.flatMap (fun part => (Piece.reference part.1).text ++ part.2) =
      line := by
  rw [split, text_segments, text_pieces]

theorem map_fst_split
    (line : Text) :
    (split line).2.map Prod.fst = names line :=
  map_fst_segments (pieces line)

end Reference

namespace Expansion

open Text (splitOn lastLine firstLine substitute)

section Splicing

theorem lastLine_mem
    (t : Text) :
    lastLine t ∈ splitOn '\n' t := by
  have hne := Text.splitOn_ne_nil '\n' t
  rw [lastLine, List.getLastD_eq_getLast?, List.getLast?_eq_some_getLast hne]
  exact List.getLast_mem hne

theorem not_mem_lastLine
    (t : Text) :
    '\n' ∉ lastLine t :=
  Text.not_mem_of_mem_splitOn (lastLine_mem t)

/-- A text behind the last line feed lengthens the last line. -/
theorem splitOn_append_line
    (out : Text) {t : Text}
    (ht : '\n' ∉ t) :
    splitOn '\n' (out ++ t) = (splitOn '\n' out).dropLast ++ [lastLine out ++ t] :=
  Text.splitOn_append_append out (Text.splitOn_of_not_mem ht)

theorem lastLine_append
    (out : Text) {t : Text}
    (ht : '\n' ∉ t) :
    lastLine (out ++ t) = lastLine out ++ t := by
  rw [lastLine, splitOn_append_line out ht]
  simp

theorem firstLine_append
    (out t : Text) :
    firstLine out <+: firstLine (out ++ t) := by
  obtain ⟨piece, pieces, ht⟩ := List.exists_cons_of_ne_nil (Text.splitOn_ne_nil '\n' t)
  obtain ⟨first, others, hout⟩ := List.exists_cons_of_ne_nil (Text.splitOn_ne_nil '\n' out)
  rw [firstLine, firstLine, Text.splitOn_append_append out ht, hout]
  cases others with
  | nil =>
      simp
  | cons second others =>
      simp

/-- The further lines of what is inserted begin with the text in front. -/
theorem splitOn_substitute
    {front : Text} (inserted : Text) {line : Text} {lines : List Text}
    (hfront : '\n' ∉ front)
    (h : splitOn '\n' inserted = line :: lines) :
    splitOn '\n' (substitute '\n' ('\n' :: front) inserted) = line :: lines.map (front ++ ·) := by
  induction inserted generalizing line lines with
  | nil =>
      cases h
      rfl
  | cons c inserted ih =>
      obtain ⟨first, others, hrest⟩ := List.exists_cons_of_ne_nil (Text.splitOn_ne_nil '\n' inserted)
      have hsub := ih hrest
      rw [substitute] at hsub
      by_cases hc : c = '\n'
      · subst hc
        rw [Text.splitOn_cons_sep, hrest] at h
        cases h
        rw [substitute, List.flatMap_cons, if_pos rfl, List.cons_append, Text.splitOn_cons_sep,
          Text.splitOn_append hfront hsub]
        rfl
      · rw [Text.splitOn_cons hc hrest] at h
        cases h
        rw [substitute, List.flatMap_cons, if_neg hc]
        exact Text.splitOn_cons hc hsub

/-- The lines after an insertion: those of the text so far without the last one, and those of what is
inserted, each behind that last one. -/
theorem splitOn_splice
    (out inserted : Text) :
    splitOn '\n' (splice out inserted) =
      (splitOn '\n' out).dropLast ++ (splitOn '\n' inserted).map (lastLine out ++ ·) := by
  obtain ⟨line, lines, h⟩ := List.exists_cons_of_ne_nil (Text.splitOn_ne_nil '\n' inserted)
  rw [splice, Text.splitOn_append_append out (splitOn_substitute inserted (not_mem_lastLine out) h), h]
  rfl

theorem count_substitute
    {front : Text} (inserted : Text)
    (hfront : '\n' ∉ front) :
    (substitute '\n' ('\n' :: front) inserted).count '\n' = inserted.count '\n' := by
  induction inserted with
  | nil =>
      rfl
  | cons c inserted ih =>
      rw [substitute] at ih ⊢
      rw [List.flatMap_cons, List.count_append, ih]
      by_cases hc : c = '\n'
      · subst hc
        rw [if_pos rfl, List.count_cons_self, List.count_cons_self, List.count_eq_zero_of_not_mem hfront]
        omega
      · rw [if_neg hc, List.count_cons_of_ne hc, List.count_cons_of_ne hc]
        simp

theorem count_splice
    (out inserted : Text) :
    (splice out inserted).count '\n' = out.count '\n' + inserted.count '\n' := by
  rw [splice, List.count_append, count_substitute inserted (not_mem_lastLine out)]

theorem splice_of_not_mem
    (out : Text) {inserted : Text}
    (h : '\n' ∉ inserted) :
    splice out inserted = out ++ inserted := by
  have hkept : ∀ c ∈ inserted, (if c = '\n' then '\n' :: lastLine out else [c]) = [c] := by
    intro c hc
    rw [if_neg]
    rintro rfl
    exact h hc
  rw [splice, substitute, List.flatMap_def, List.map_congr_left hkept, ← List.flatMap_def,
    List.flatMap_singleton']

end Splicing

section Inserting

/-- The text of a line so far, behind which texts are inserted one after another; each comes with the text
behind it. -/
def insertAll (out : Text) : List (Text × Text) → Text
  | [] => out
  | (inserted, behind) :: rest => insertAll (splice out inserted ++ behind) rest

/-- What is built is only ever lengthened. -/
theorem insertAll_eq_append
    (out : Text) (parts : List (Text × Text)) :
    ∃ more, insertAll out parts = out ++ more := by
  induction parts generalizing out with
  | nil =>
      exact ⟨[], (List.append_nil out).symm⟩
  | cons part parts ih =>
      obtain ⟨inserted, behind⟩ := part
      obtain ⟨more, hmore⟩ := ih (splice out inserted ++ behind)
      rw [insertAll, hmore, splice]
      exact ⟨_, by rw [List.append_assoc, List.append_assoc]⟩

theorem count_insertAll
    (out : Text) (parts : List (Text × Text))
    (hbehind : ∀ part ∈ parts, '\n' ∉ part.2) :
    (insertAll out parts).count '\n' =
      out.count '\n' + (parts.map Prod.fst).flatten.count '\n' := by
  induction parts generalizing out with
  | nil =>
      simp [insertAll]
  | cons part parts ih =>
      obtain ⟨inserted, behind⟩ := part
      simp only [List.forall_mem_cons] at hbehind
      rw [insertAll, ih _ hbehind.2, List.count_append, count_splice,
        List.count_eq_zero_of_not_mem hbehind.1, List.map_cons, List.flatten_cons, List.count_append]
      dsimp only
      omega

/-- What every line so far begins with, every line begins with after an insertion: its new lines repeat the
last one. -/
theorem prefix_splice
    {front out : Text} (inserted : Text) {behind : Text}
    (hbehind : '\n' ∉ behind)
    (h : ∀ line ∈ splitOn '\n' out, front <+: line) :
    ∀ line ∈ splitOn '\n' (splice out inserted ++ behind), front <+: line := by
  have hspliced : ∀ line ∈ splitOn '\n' (splice out inserted), front <+: line := by
    intro line hline
    rw [splitOn_splice] at hline
    rcases List.mem_append.mp hline with hold | hnew
    · exact h line (List.dropLast_subset _ hold)
    · obtain ⟨rest, -, rfl⟩ := List.mem_map.mp hnew
      exact (h _ (lastLine_mem out)).trans (List.prefix_append _ _)
  intro line hline
  rw [splitOn_append_line _ hbehind] at hline
  rcases List.mem_append.mp hline with hold | hlast
  · exact hspliced line (List.dropLast_subset _ hold)
  · rw [List.mem_singleton.mp hlast]
    exact (hspliced _ (lastLine_mem _)).trans (List.prefix_append _ _)

theorem prefix_insertAll
    {front out : Text} (parts : List (Text × Text))
    (hbehind : ∀ part ∈ parts, '\n' ∉ part.2)
    (h : ∀ line ∈ splitOn '\n' out, front <+: line) :
    ∀ line ∈ splitOn '\n' (insertAll out parts), front <+: line := by
  induction parts generalizing out with
  | nil =>
      exact h
  | cons part parts ih =>
      obtain ⟨inserted, behind⟩ := part
      simp only [List.forall_mem_cons] at hbehind
      exact ih hbehind.2 (prefix_splice inserted hbehind.1 h)

theorem suffix_insertAll
    (out : Text) {parts : List (Text × Text)}
    (hbehind : ∀ part ∈ parts, '\n' ∉ part.2) :
    ∀ part ∈ parts.getLast?, part.2 <:+ lastLine (insertAll out parts) := by
  induction parts generalizing out with
  | nil =>
      simp
  | cons part parts ih =>
      obtain ⟨inserted, behind⟩ := part
      simp only [List.forall_mem_cons] at hbehind
      cases parts with
      | nil =>
          intro part hpart
          cases hpart
          rw [insertAll, insertAll, lastLine_append _ hbehind.1]
          exact List.suffix_append _ _
      | cons next parts =>
          rw [List.getLast?_cons_cons]
          exact ih (splice out inserted ++ behind) hbehind.2

theorem insertAll_of_not_mem
    (out : Text) {parts : List (Text × Text)}
    (h : ∀ part ∈ parts, '\n' ∉ part.1) :
    insertAll out parts = out ++ parts.flatMap fun part => part.1 ++ part.2 := by
  induction parts generalizing out with
  | nil =>
      simp [insertAll]
  | cons part parts ih =>
      obtain ⟨inserted, behind⟩ := part
      simp only [List.forall_mem_cons] at h
      rw [insertAll, ih _ h.2, splice_of_not_mem out h.1]
      simp

/-- How a line looks once texts have been inserted into it behind the text `front`; each comes with the
text behind it. -/
structure InsertedLine (front : Text) (parts : List (Text × Text)) (out : Text) : Prop where
  /-- The line feeds are those of the inserted texts. -/
  count : out.count '\n' = (parts.map Prod.fst).flatten.count '\n'
  /-- Every line begins with the text in front. -/
  start : ∀ line ∈ splitOn '\n' out, front <+: line
  /-- The first line goes on with the first line of the first text. -/
  first : ∀ part ∈ parts.head?, front ++ firstLine part.1 <+: firstLine out
  /-- The last line ends with the text behind the last reference. -/
  last : ∀ part ∈ parts.getLast?, part.2 <:+ lastLine out
  /-- Without line feeds the texts stand where the references stood. -/
  plain : (∀ part ∈ parts, '\n' ∉ part.1) → out = front ++ parts.flatMap fun part => part.1 ++ part.2

/-- The first line is the text in front with the first line of the first text. -/
theorem firstLine_splice
    {front : Text} (inserted : Text)
    (hfront : '\n' ∉ front) :
    firstLine (splice front inserted) = front ++ firstLine inserted := by
  obtain ⟨line, lines, h⟩ := List.exists_cons_of_ne_nil (Text.splitOn_ne_nil '\n' inserted)
  rw [firstLine, firstLine, splitOn_splice, lastLine, Text.splitOn_of_not_mem hfront, h]
  rfl

theorem insertedLine_insertAll
    {front : Text} {parts : List (Text × Text)}
    (hfront : '\n' ∉ front)
    (hbehind : ∀ part ∈ parts, '\n' ∉ part.2) :
    InsertedLine front parts (insertAll front parts) where
  count := by
    rw [count_insertAll front parts hbehind, List.count_eq_zero_of_not_mem hfront, Nat.zero_add]
  start := by
    refine prefix_insertAll parts hbehind ?_
    simp [Text.splitOn_of_not_mem hfront]
  first := by
    intro part hpart
    cases parts with
    | nil =>
        cases hpart
    | cons first parts =>
        cases hpart
        obtain ⟨inserted, behind⟩ := part
        obtain ⟨more, hmore⟩ := insertAll_eq_append (splice front inserted ++ behind) parts
        rw [insertAll, hmore, List.append_assoc, ← firstLine_splice inserted hfront]
        exact firstLine_append _ _
  last := suffix_insertAll front hbehind
  plain := insertAll_of_not_mem front

end Inserting

section Separation

variable {m : Type → Type} [Monad m] [LawfulMonad m]

/-- Expanding a line is resolving its references in order and inserting the results. -/
theorem expandPieces_eq_insertAll
    (resolve : Text → m Text) (out : Text) (ps : List Piece) :
    expandPieces resolve out ps =
      (fun texts => insertAll (out ++ (Reference.segments ps).1)
        (texts.zip ((Reference.segments ps).2.map Prod.snd))) <$>
        (ps.filterMap Piece.name?).mapM resolve := by
  induction ps generalizing out with
  | nil =>
      simp [expandPieces, Reference.segments, insertAll]
  | cons p ps ih =>
      cases p with
      | literal t =>
          rw [expandPieces, ih, Reference.filterMap_literal]
          simp only [Reference.segments, List.append_assoc]
      | reference name =>
          rw [expandPieces, Reference.filterMap_reference, List.mapM_cons]
          simp only [ih, map_eq_pure_bind, bind_assoc, pure_bind, Reference.segments, List.map_cons,
            List.zip_cons_cons, insertAll, List.append_nil]

/-- Resolving names in order gives one text for each. -/
theorem exists_mapM_eq_val
    (resolve : Text → m Text) (names : List Text) :
    ∃ sized : m {texts : List Text // texts.length = names.length},
      names.mapM resolve = Subtype.val <$> sized := by
  induction names with
  | nil =>
      exact ⟨pure ⟨[], rfl⟩, by simp⟩
  | cons name names ih =>
      obtain ⟨sized, hsized⟩ := ih
      refine ⟨do
        let text ← resolve name
        let texts ← sized
        pure ⟨text :: texts.1, by simp [texts.2]⟩, ?_⟩
      simp [List.mapM_cons, hsized]

/-- One function for the results of two lists of names, from one for each. -/
theorem map_mapM_append
    {α β : Type} (resolve : Text → m Text) (names others : List Text)
    (f : List Text → α) (g : List Text → β) :
    (fun texts => (f (texts.take names.length), g (texts.drop names.length))) <$>
        (names ++ others).mapM resolve =
      (do
        let a ← f <$> names.mapM resolve
        let b ← g <$> others.mapM resolve
        pure (a, b)) := by
  obtain ⟨sized, hsized⟩ := exists_mapM_eq_val resolve names
  have htake : ∀ (texts : {texts : List Text // texts.length = names.length}) (rest : List Text),
      (texts.1 ++ rest).take names.length = texts.1 := fun texts rest => List.take_left' texts.2
  have hdrop : ∀ (texts : {texts : List Text // texts.length = names.length}) (rest : List Text),
      (texts.1 ++ rest).drop names.length = rest := fun texts rest => List.drop_left' texts.2
  simp [List.mapM_append, hsized, htake, hdrop]

/-- The text in front of the first reference and the texts behind references have no more line feeds than
the line. -/
theorem not_mem_split
    {line : Text}
    (h : '\n' ∉ line) :
    '\n' ∉ (Reference.split line).1 ∧ ∀ part ∈ (Reference.split line).2, '\n' ∉ part.2 := by
  rw [← Reference.text_split line] at h
  simp only [List.mem_append, List.mem_flatMap, not_or, not_exists, not_and] at h
  exact ⟨h.1, fun part hpart => (h.2 part hpart).2⟩

/-- **Lines.**  Expanding a line is resolving its references in order and applying a function to the
results; how the line looks then. -/
theorem exists_expandPieces_eq_map
    (resolve : Text → m Text) {line : Text}
    (hline : '\n' ∉ line) :
    ∃ build : List Text → Text,
      expandPieces resolve [] (Reference.pieces line) =
        build <$> (Reference.names line).mapM resolve ∧
      ∀ texts, texts.length = (Reference.names line).length →
        InsertedLine (Reference.split line).1
          (texts.zip ((Reference.split line).2.map Prod.snd)) (build texts) := by
  obtain ⟨hfront, hbehind⟩ := not_mem_split hline
  refine ⟨_, expandPieces_eq_insertAll resolve [] (Reference.pieces line), ?_⟩
  intro texts _
  refine insertedLine_insertAll hfront ?_
  rintro ⟨inserted, behind⟩ hpart
  obtain ⟨part, hmem, rfl⟩ := List.mem_map.mp (List.of_mem_zip hpart).2
  exact hbehind part hmem

theorem map_fst_zip_split
    {line : Text} {texts : List Text}
    (h : texts.length = (Reference.names line).length) :
    (texts.zip ((Reference.split line).2.map Prod.snd)).map Prod.fst = texts := by
  refine List.map_fst_zip ?_
  rw [h, ← Reference.map_fst_split, List.length_map, List.length_map]

theorem exists_expandLines_eq_map
    (resolve : Text → m Text) (lines : List Text)
    (hlines : ∀ line ∈ lines, '\n' ∉ line) :
    ∃ build : List Text → List Text,
      expandLines resolve lines = build <$> (lines.flatMap Reference.names).mapM resolve ∧
      ∀ texts, texts.length = (lines.flatMap Reference.names).length →
        (build texts).length = lines.length ∧
          (build texts).flatten.count '\n' = texts.flatten.count '\n' := by
  induction lines with
  | nil =>
      refine ⟨fun _ => [], by simp [expandLines], ?_⟩
      intro texts htexts
      rw [List.length_eq_zero_iff.mp htexts]
      exact ⟨rfl, rfl⟩
  | cons line lines ih =>
      simp only [List.forall_mem_cons] at hlines
      obtain ⟨buildLine, hfirst, hinserted⟩ := exists_expandPieces_eq_map resolve hlines.1
      obtain ⟨buildLines, hothers, hcounts⟩ := ih hlines.2
      refine ⟨fun texts => buildLine (texts.take (Reference.names line).length) ::
        buildLines (texts.drop (Reference.names line).length), ?_, ?_⟩
      · have hboth := map_mapM_append resolve (Reference.names line) (lines.flatMap Reference.names)
          buildLine buildLines
        have hcons := congrArg (Functor.map fun both : Text × List Text => both.1 :: both.2) hboth
        rw [expandLines, hfirst, hothers, List.flatMap_cons]
        simpa using hcons.symm
      · intro texts htexts
        rw [List.flatMap_cons, List.length_append] at htexts
        have htake : (texts.take (Reference.names line).length).length =
            (Reference.names line).length := by
          rw [List.length_take]
          omega
        have hdrop : (texts.drop (Reference.names line).length).length =
            (lines.flatMap Reference.names).length := by
          rw [List.length_drop]
          omega
        obtain ⟨hlength, hcount⟩ := hcounts _ hdrop
        have hline := (hinserted _ htake).count
        rw [map_fst_zip_split htake] at hline
        refine ⟨by rw [List.length_cons, List.length_cons, hlength], ?_⟩
        rw [List.flatten_cons, List.count_append, hline, hcount, ← List.count_append,
          ← List.flatten_append, List.take_append_drop]

/-- **Bodies.**  Expanding a body is resolving its references in order and applying a function to the
results, which adds the line feeds of the results and no others. -/
theorem exists_expandBody_eq_map
    (resolve : Text → m Text) (body : Text) :
    ∃ build : List Text → Text,
      expandBody resolve body = build <$> (Reference.names body).mapM resolve ∧
      ∀ texts, texts.length = (Reference.names body).length →
        (build texts).count '\n' = body.count '\n' + texts.flatten.count '\n' := by
  have hpieces : ∀ line ∈ splitOn '\n' body, '\n' ∉ line := fun line => Text.not_mem_of_mem_splitOn
  obtain ⟨build, hbuild, hcounts⟩ := exists_expandLines_eq_map resolve (splitOn '\n' body) hpieces
  rw [← Reference.names_eq_flatMap_lines] at hbuild hcounts
  refine ⟨fun texts => Text.join ['\n'] (build texts), ?_, ?_⟩
  · rw [expandBody_eq_expandEveryLine, expandEveryLine, hbuild]
    simp
  · intro texts htexts
    obtain ⟨hlength, hcount⟩ := hcounts texts htexts
    have hbody := Text.count_join '\n' (splitOn '\n' body)
    rw [Text.join_splitOn] at hbody
    have hnone : (splitOn '\n' body).flatten.count '\n' = 0 := by
      refine List.count_eq_zero_of_not_mem ?_
      rw [List.mem_flatten]
      rintro ⟨line, hline, hmem⟩
      exact hpieces line hline hmem
    rw [Text.count_join, hcount, hlength]
    omega

end Separation

/-- **The text in front of a reference is repeated.**  A line is the text in front of its first reference,
and its references with the text behind each.  Expanding it resolves the references in order and inserts
the results, and expanding a body adds the line feeds of what is inserted and no others. -/
theorem expansion_repeats_front
    {m : Type → Type} [Monad m] [LawfulMonad m] (resolve : Text → m Text) (line body : Text)
    (hline : '\n' ∉ line) :
    ((Reference.split line).1 ++ (Reference.split line).2.flatMap
        (fun part => (Piece.reference part.1).text ++ part.2) = line ∧
      (Reference.split line).2.map Prod.fst = Reference.names line ∧
      ∃ build : List Text → Text,
        expandPieces resolve [] (Reference.pieces line) =
          build <$> (Reference.names line).mapM resolve ∧
        ∀ texts, texts.length = (Reference.names line).length →
          InsertedLine (Reference.split line).1
            (texts.zip ((Reference.split line).2.map Prod.snd)) (build texts)) ∧
    ∃ build : List Text → Text,
      expandBody resolve body = build <$> (Reference.names body).mapM resolve ∧
      ∀ texts, texts.length = (Reference.names body).length →
        (build texts).count '\n' = body.count '\n' + texts.flatten.count '\n' := by
  refine ⟨⟨Reference.text_split line, Reference.map_fst_split line, ?_⟩,
    exists_expandBody_eq_map resolve body⟩
  exact exists_expandPieces_eq_map resolve hline

/-- The second reference stands behind lines of the first one. -/
theorem expansion_repeats_front_two_references :
    let line : Text := "  <<a>> + <<b>>;"
    let resolve : Text → Option Text := fun name => if name = "a" then some "x\ny" else some "z\n"
    '\n' ∉ line ∧
    (Reference.split line).1 = ("  " : Text) ∧
    expandPieces resolve [] (Reference.pieces line) = some "  x\n  y + z\n  y + ;" ∧
    ∃ build : List Text → Text,
      expandPieces resolve [] (Reference.pieces line) =
        build <$> (Reference.names line).mapM resolve ∧
      ∀ texts, texts.length = (Reference.names line).length →
        InsertedLine (Reference.split line).1
          (texts.zip ((Reference.split line).2.map Prod.snd)) (build texts) := by
  intro line resolve
  have hline : '\n' ∉ line := by
    decide
  refine ⟨hline, by decide +kernel, by decide +kernel, ?_⟩
  exact (expansion_repeats_front resolve line [] hline).1.2.2

end Expansion
end Literate
