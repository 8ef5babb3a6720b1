import Gamebook.Proofs.Markup.Soundness
import Gamebook.Proofs.Text.Cuts

/-! # What is written is cut up again

A row of marks that is written is cut into a piece for each bracket and a piece for each run of
characters between brackets (`pieces_written`). No marks are lost on the way, so that rows which are
written alike are the same (`written_injective`).
-/

namespace Gamebook.Markup

/-- An attribute as it is cut out. -/
def rawAttribute (pair : String × String) : RawAttribute :=
  ⟨⟨[], pair.1.toList⟩, Text.escapeAttribute pair.2.toList⟩

/-- A bracket as it is cut out. -/
def Bracket.piece : Bracket → Piece
  | .opening name attributes => .openTag ⟨[], name.toList⟩ (attributes.map rawAttribute)
  | .closing name => .closeTag ⟨[], name.toList⟩

/-- The piece for a run of characters, if there are any. -/
def runPieces (run : List Char) : List Piece :=
  if run = [] then [] else [.text (Text.escapeText run)]

/-- The pieces of a row of marks that follows the characters `run`. -/
def cuts (run : List Char) : List Mark → List Piece
  | [] => runPieces run
  | .char c :: rest => cuts (run ++ [c]) rest
  | .bracket b :: rest => runPieces run ++ b.piece :: cuts [] rest

/-! ## Tags -/

section Tags

variable {name : List Char} (h : IsLocalName name)
include h

theorem qualifiedName?_append {c : Char} (hc : isNameChar c = false) (rest : List Char) :
    qualifiedName? (name ++ c :: rest) = some (⟨[], name⟩, c :: rest) := by
  have hword : (name ++ c :: rest).takeWhile isNameChar = name := by
    rw [List.takeWhile_append_of_pos fun d hd => (h.all d hd).1,
      List.takeWhile_cons_of_neg (by simp [hc]), List.append_nil]
  have hafter : (name ++ c :: rest).dropWhile isNameChar = c :: rest := by
    rw [List.dropWhile_append_of_pos fun d hd => (h.all d hd).1,
      List.dropWhile_cons_of_neg (by simp [hc])]
  have hcolon : ∀ d ∈ name, (d != ':') = true := fun d hd => by simpa using (h.all d hd).2
  have hlocal : QualifiedName.ofWord? name = some ⟨[], name⟩ := by
    rw [QualifiedName.ofWord?, List.takeWhile_eq_self_iff.2 hcolon,
      List.dropWhile_eq_nil_iff.2 hcolon]
    simp [h.start]
  rw [qualifiedName?, hword, hafter, hlocal]
  rfl

theorem exists_cons_of_isLocalName :
    ∃ first rest, name = first :: rest ∧ isNameStart first = true := by
  obtain ⟨first, hfirst, hstart⟩ := (Option.any_eq_true _ _).1 h.start
  obtain ⟨rest, hrest⟩ := List.head?_eq_some_iff.1 hfirst
  exact ⟨first, rest, hrest, hstart⟩

theorem dropWhile_isSpace_append (rest : List Char) :
    (name ++ rest).dropWhile isSpace = name ++ rest := by
  obtain ⟨first, others, rfl, hstart⟩ := exists_cons_of_isLocalName h
  have hspace : isSpace first = false := by
    by_contra hspace
    rw [Bool.not_eq_false] at hspace
    simp only [isSpace, Bool.or_eq_true, beq_iff_eq] at hspace
    rcases hspace with ((rfl | rfl) | rfl) | rfl <;> exact absurd hstart (by decide)
  rw [List.cons_append, List.dropWhile_cons_of_neg (by simp [hspace])]

end Tags

/-- What begins with a name begins with nothing else. -/
theorem cons_ne_cons_of_isNameStart {first other : Char} (hfirst : isNameStart first = true)
    (hother : isNameStart other = false) (text rest : List Char) :
    first :: text ≠ other :: rest := by
  intro heq
  rw [(List.cons.inj heq).1, hother] at hfirst
  cases hfirst

theorem not_mem_escapeAttribute (value : List Char) :
    '"' ∉ Text.escapeAttribute value ∧ '<' ∉ Text.escapeAttribute value := by
  have hchar (c : Char) :
      '"' ∉ Text.escapeAttributeChar c ∧ '<' ∉ Text.escapeAttributeChar c := by
    unfold Text.escapeAttributeChar
    split
    · decide
    next hquote =>
      rcases Text.escapeTextChar_cases c with (rfl | rfl | rfl) | ⟨⟨-, hless, -⟩, hself⟩
      · decide
      · decide
      · decide
      · rw [hself]
        simp [Ne.symm hquote, Ne.symm hless]
  simp only [Text.escapeAttribute, List.mem_flatMap, not_exists, not_and]
  exact ⟨fun c _ => (hchar c).1, fun c _ => (hchar c).2⟩

theorem not_mem_escapeText (text : List Char) :
    '<' ∉ Text.escapeText text ∧ '>' ∉ Text.escapeText text := by
  have hchar (c : Char) : '<' ∉ Text.escapeTextChar c ∧ '>' ∉ Text.escapeTextChar c := by
    rcases Text.escapeTextChar_cases c with (rfl | rfl | rfl) | ⟨⟨-, hless, hmore⟩, hself⟩
    · decide
    · decide
    · decide
    · rw [hself]
      simp [Ne.symm hless, Ne.symm hmore]
  simp only [Text.escapeText, List.mem_flatMap, not_exists, not_and]
  exact ⟨fun c _ => (hchar c).1, fun c _ => (hchar c).2⟩

theorem quotedValue?_escapeAttribute (value rest : List Char) :
    quotedValue? ('"' :: (Text.escapeAttribute value ++ '"' :: rest)) =
      some (Text.escapeAttribute value, rest) := by
  have hvalue : ∀ c ∈ Text.escapeAttribute value, (c != '"' && c != '<') = true := by
    intro c hc
    obtain ⟨hquote, hless⟩ := not_mem_escapeAttribute value
    simp only [Bool.and_eq_true, bne_iff_ne]
    exact ⟨fun heq => hquote (heq ▸ hc), fun heq => hless (heq ▸ hc)⟩
  rw [quotedValue?, if_pos (Or.inl rfl), List.dropWhile_append_of_pos hvalue,
    List.takeWhile_append_of_pos hvalue]
  simp

theorem attribute?_written {pair : String × String} (h : IsLocalName pair.1.toList)
    (rest : List Char) :
    attribute? (pair.1.toList ++
        '=' :: '"' :: (Text.escapeAttribute pair.2.toList ++ '"' :: rest)) =
      some (rawAttribute pair, rest) := by
  rw [attribute?, qualifiedName?_append h (by decide)]
  simp only [List.dropWhile_cons, show isSpace '=' = false by decide,
    show isSpace '"' = false by decide, Bool.false_eq_true, if_false]
  rw [quotedValue?_escapeAttribute]
  rfl

theorem attributes?_written {attributes : List (String × String)}
    (h : ∀ pair ∈ attributes, IsLocalName pair.1.toList) (rest : List Char) :
    attributes? (attributes.flatMap attributeMarkup ++ '>' :: rest) =
      some (attributes.map rawAttribute, false, rest) := by
  induction attributes with
  | nil =>
      have hdrop : ('>' :: rest).dropWhile isSpace = '>' :: rest := by
        rw [List.dropWhile_cons_of_neg (by decide)]
      rw [List.flatMap_nil, List.nil_append, attributes?]
      split
      next after heq =>
        cases hdrop.symm.trans heq
        rfl
      next after heq => cases hdrop.symm.trans heq
      next hend _ => exact absurd hdrop (hend rest)
  | cons first others ih =>
      obtain ⟨hfirst, hothers⟩ := List.forall_mem_cons.1 h
      obtain ⟨c, name, hname, hstart⟩ := exists_cons_of_isLocalName hfirst
      have htext : (first :: others).flatMap attributeMarkup ++ '>' :: rest =
          ' ' :: (first.1.toList ++ '=' :: '"' :: (Text.escapeAttribute first.2.toList ++ '"' ::
            (others.flatMap attributeMarkup ++ '>' :: rest))) := by
        simp [attributeMarkup]
      rw [htext]
      generalize hafter : '=' :: '"' :: (Text.escapeAttribute first.2.toList ++ '"' ::
        (others.flatMap attributeMarkup ++ '>' :: rest)) = after
      have hdrop : (' ' :: (first.1.toList ++ after)).dropWhile isSpace =
          first.1.toList ++ after := by
        rw [List.dropWhile_cons_of_pos (by decide), dropWhile_isSpace_append hfirst]
      rw [attributes?]
      split
      next heq =>
        rw [hdrop, hname] at heq
        exact absurd heq (cons_ne_cons_of_isNameStart hstart (by decide) _ _)
      next heq =>
        rw [hdrop, hname] at heq
        exact absurd heq (cons_ne_cons_of_isNameStart hstart (by decide) _ _)
      next =>
        rw [if_pos (by rfl)]
        split
        next read tail hread =>
          rw [hdrop, ← hafter, attribute?_written hfirst] at hread
          cases hread
          rw [ih hothers]
          rfl
        next hread =>
          rw [hdrop, ← hafter, attribute?_written hfirst] at hread
          cases hread

/-! ## Pieces -/

theorem tag?_written {name : List Char} {attributes : List (String × String)}
    (hname : IsLocalName name) (h : ∀ pair ∈ attributes, IsLocalName pair.1.toList)
    (rest : List Char) :
    tag? (name ++ (attributes.flatMap attributeMarkup ++ '>' :: rest)) =
      some (.openTag ⟨[], name⟩ (attributes.map rawAttribute), rest) := by
  have hend : ∃ c tail, attributes.flatMap attributeMarkup ++ '>' :: rest = c :: tail ∧
      isNameChar c = false := by
    cases attributes with
    | nil => exact ⟨'>', rest, rfl, by decide⟩
    | cons first others => exact ⟨' ', _, rfl, by decide⟩
  obtain ⟨c, tail, hcons, hc⟩ := hend
  have hattributes := attributes?_written h rest
  rw [hcons] at hattributes ⊢
  rw [tag?, qualifiedName?_append hname hc]
  simp only [hattributes, Option.map_some, Bool.false_eq_true, if_false]

/-- A bracket is cut out as a whole. -/
theorem piece_bracket {b : Bracket} (h : b.Sound) (rest : List Char) :
    piece '<' (b.inside ++ '>' :: rest) = .ok (b.piece, rest) := by
  unfold piece
  rw [if_pos rfl]
  cases b with
  | opening name attributes =>
      obtain ⟨hname, hattributes⟩ := h
      obtain ⟨c, others, hcons, hstart⟩ := exists_cons_of_isLocalName hname
      have htag := tag?_written hname (fun pair hpair => (hattributes pair hpair).1) rest
      rw [Bracket.inside, List.append_assoc]
      rw [hcons, List.cons_append] at htag ⊢
      -- No other kind of piece begins with a character that begins a name.
      split
      next heq => exact absurd heq (cons_ne_cons_of_isNameStart hstart (by decide) _ _)
      next heq => exact absurd heq (cons_ne_cons_of_isNameStart hstart (by decide) _ _)
      next heq => exact absurd heq (cons_ne_cons_of_isNameStart hstart (by decide) _ _)
      next heq => exact absurd heq (cons_ne_cons_of_isNameStart hstart (by decide) _ _)
      next heq => exact absurd heq (cons_ne_cons_of_isNameStart hstart (by decide) _ _)
      next =>
        rw [htag, Bracket.piece, hcons]
        rfl
  | closing name =>
      have hclose : closeTag? (name.toList ++ '>' :: rest) =
          some (.closeTag ⟨[], name.toList⟩, rest) := by
        rw [closeTag?, qualifiedName?_append h (by decide)]
        simp [List.dropWhile_cons_of_neg, show isSpace '>' = false by decide]
      change orFail _ (closeTag? (name.toList ++ '>' :: rest)) = _
      rw [hclose]
      rfl

/-- A run of characters is cut out as a whole. -/
theorem piece_run {run rest : List Char} {c : Char} {others : List Char}
    (hrun : Text.escapeText run = c :: others) (hrest : ∀ d ∈ rest.head?, d = '<') :
    piece c (others ++ rest) = .ok (.text (Text.escapeText run), rest) := by
  obtain ⟨hless, hmore⟩ := not_mem_escapeText run
  rw [hrun] at hless hmore ⊢
  have hall : ∀ d ∈ others, (d != '<') = true := by
    intro d hd
    rw [bne_iff_ne]
    rintro rfl
    exact hless (List.mem_cons_of_mem _ hd)
  have htake : (others ++ rest).takeWhile (· != '<') = others := by
    rw [List.takeWhile_append_of_pos hall]
    cases rest with
    | nil => simp
    | cons d rest => simp [hrest d rfl]
  have hdrop : (others ++ rest).dropWhile (· != '<') = rest := by
    rw [List.dropWhile_append_of_pos hall]
    cases rest with
    | nil => rfl
    | cons d rest => simp [hrest d rfl]
  have hsection : Text.holds [']', ']', '>'] (c :: others) = false := by
    rw [Bool.eq_false_iff, Ne, Text.holds_iff (by simp)]
    intro hwithin
    exact hmore (hwithin.subset (by simp))
  have hc : c ≠ '<' := by
    rintro rfl
    exact hless List.mem_cons_self
  unfold piece
  rw [if_neg hc]
  dsimp only
  rw [htake, hdrop, if_neg (by simp [hsection])]

/-- The pieces of a text without the places where they stand. -/
def bare (found : Except Failure (List Placed)) : Except Failure (List Piece) :=
  found.map (List.map Placed.piece)

theorem bare_pieces_cons {c : Char} {rest after : List Char} {found : Piece}
    (h : piece c rest = .ok (found, after)) (position : Position) :
    ∃ next, bare (pieces position (c :: rest)) = (bare (pieces next after)).map (found :: ·) := by
  refine ⟨position.after ((c :: rest).take (rest.length + 1 - after.length)), ?_⟩
  rw [pieces]
  split
  next failure hfailure => cases hfailure.symm.trans h
  next other tail hother =>
    cases hother.symm.trans h
    dsimp only [bare]
    cases pieces (position.after ((c :: rest).take (rest.length + 1 - after.length))) after with
    | error failure => rfl
    | ok placed => rfl

theorem bare_pieces_run (run rest : List Char) (hrest : ∀ c ∈ rest.head?, c = '<')
    (position : Position) :
    ∃ next, bare (pieces position (Text.escapeText run ++ rest)) =
      (bare (pieces next rest)).map (runPieces run ++ ·) := by
  cases hrun : Text.escapeText run with
  | nil =>
      have hnone : run = [] := by
        rw [← Text.decodeEntities_escapeText run, hrun]
        rfl
      refine ⟨position, ?_⟩
      rw [hnone, runPieces, if_pos rfl, List.nil_append]
      cases bare (pieces position rest) <;> rfl
  | cons c others =>
      have hsome : run ≠ [] := by
        rintro rfl
        cases hrun
      obtain ⟨next, hnext⟩ := bare_pieces_cons (piece_run hrun hrest) position
      refine ⟨next, ?_⟩
      rw [List.cons_append, hnext, runPieces, if_neg hsome]
      rfl

/-- A row of marks that is written after a run of characters is cut at its brackets. -/
theorem bare_pieces_written {marks : List Mark} (h : ∀ mark ∈ marks, mark.Sound) (run : List Char)
    (position : Position) :
    bare (pieces position (Text.escapeText run ++ written marks)) = .ok (cuts run marks) := by
  induction marks generalizing run position with
  | nil =>
      obtain ⟨next, hnext⟩ := bare_pieces_run run (written []) (by simp) position
      rw [hnext, written_nil, pieces, cuts]
      simp [bare, Except.map]
  | cons first rest ih =>
      obtain ⟨hfirst, hrest⟩ := List.forall_mem_cons.1 h
      cases first with
      | char c =>
          have hrun : Text.escapeText run ++ written (.char c :: rest) =
              Text.escapeText (run ++ [c]) ++ written rest := by
            simp [Text.escapeText, Mark.markup]
          rw [hrun, ih hrest, cuts]
      | bracket b =>
          have hbracket : written (.bracket b :: rest) =
              '<' :: (b.inside ++ '>' :: written rest) := by
            simp [Mark.markup, Bracket.markup]
          rw [hbracket]
          obtain ⟨start, hstart⟩ := bare_pieces_run run
            ('<' :: (b.inside ++ '>' :: written rest)) (by simp) position
          obtain ⟨next, hnext⟩ := bare_pieces_cons (piece_bracket hfirst (written rest)) start
          have hcuts := ih hrest [] next
          rw [Text.escapeText, List.flatMap_nil, List.nil_append] at hcuts
          rw [hstart, hnext, hcuts, cuts]
          rfl

/-- What is written is cut up into its runs and brackets. -/
theorem pieces_written {marks : List Mark} (h : ∀ mark ∈ marks, mark.Sound) (position : Position) :
    ∃ placed, pieces position (written marks) = .ok placed ∧
      placed.map Placed.piece = cuts [] marks := by
  have hbare := bare_pieces_written h [] position
  exact Except.map_eq_ok_iff.1 hbare

/-! ## Nothing is lost -/

/-- The marks that a piece was cut out from. -/
def Piece.marks : Piece → List Mark
  | .openTag name attributes =>
    [.bracket (.opening (String.ofList name.name) (attributes.map fun raw =>
      (String.ofList raw.name.name, String.ofList (Text.decodeEntities raw.value))))]
  | .closeTag name => [.bracket (.closing (String.ofList name.name))]
  | .text raw => (Text.decodeEntities raw).map .char
  | _ => []

theorem marks_piece (b : Bracket) : b.piece.marks = [.bracket b] := by
  cases b with
  | opening name attributes =>
      simp [Bracket.piece, Piece.marks, rawAttribute, Function.comp_def,
        Text.decodeEntities_escapeAttribute]
  | closing name => simp [Bracket.piece, Piece.marks]

theorem marks_runPieces (run : List Char) :
    (runPieces run).flatMap Piece.marks = run.map .char := by
  by_cases h : run = []
  · simp [runPieces, h]
  · simp [runPieces, h, Piece.marks, Text.decodeEntities_escapeText]

theorem marks_cuts (run : List Char) (marks : List Mark) :
    (cuts run marks).flatMap Piece.marks = run.map .char ++ marks := by
  induction marks generalizing run with
  | nil => rw [cuts, marks_runPieces, List.append_nil]
  | cons first rest ih =>
      cases first with
      | char c => rw [cuts, ih]; simp
      | bracket b =>
          rw [cuts, List.flatMap_append, List.flatMap_cons, marks_runPieces, marks_piece, ih]
          simp

/-- Rows that are written alike are the same. -/
theorem written_injective {xs ys : List Mark} (hxs : ∀ mark ∈ xs, mark.Sound)
    (hys : ∀ mark ∈ ys, mark.Sound) (h : written xs = written ys) : xs = ys := by
  obtain ⟨placed, hplaced, hcuts⟩ := pieces_written hxs .first
  obtain ⟨others, hothers, hcuts'⟩ := pieces_written hys .first
  rw [h, hothers] at hplaced
  cases hplaced
  have hmarks := marks_cuts [] xs
  rw [← hcuts, hcuts', marks_cuts] at hmarks
  simpa using hmarks.symm

theorem cuts_append_bracket (run : List Char) (xs ys : List Mark) (b : Bracket) :
    cuts run (xs ++ .bracket b :: ys) = cuts run xs ++ b.piece :: cuts [] ys := by
  induction xs generalizing run with
  | nil => rfl
  | cons first rest ih =>
      cases first with
      | char c => rw [List.cons_append, cuts, cuts, ih]
      | bracket other => rw [List.cons_append, cuts, cuts, ih]; simp

theorem piece_mem_cuts (run : List Char) {marks : List Mark} {b : Bracket}
    (h : .bracket b ∈ marks) : b.piece ∈ cuts run marks := by
  obtain ⟨before, after, rfl⟩ := List.append_of_mem h
  rw [cuts_append_bracket]
  simp

end Gamebook.Markup
