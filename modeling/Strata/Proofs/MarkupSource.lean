import Strata.Proofs.MarkupScan

/-! Tokens with the characters that they were read from. A text that scans is cut into them without
gaps, so parts of it can be taken out and the rest kept as it stands. -/
namespace Strata.Markup.Scan

structure Lexeme where
  token : Token
  source : List Char
deriving DecidableEq

/-- The lexemes of a text, of whose first one some characters were read before. -/
def lexFrom : Mode → List Char → List Char → Option (List Lexeme)
  | .content, [], [] => some []
  | _, _, [] => none
  | m, read, c :: s => do
    let (next, found) ← step m c
    match found with
    | [] => lexFrom next (read ++ [c]) s
    | t :: _ => return ⟨t, read ++ [c]⟩ :: (← lexFrom next [] s)

def lex (s : String) : Option (List Lexeme) := lexFrom .content [] s.toList

def Lexes (s : List Char) (l : List Lexeme) : Prop := lexFrom .content [] s = some l

variable {m next : Mode} {c : Char} {s read : List Char} {t : Token} {l : List Lexeme}

/-- A token is found just where a scan comes back to the characters between tags. -/
theorem step_finds {found : List Token} (stepped : step m c = some (next, found)) :
    (next = .content ∧ ∃ t, found = [t]) ∨ next ≠ .content ∧ found = [] := by
  cases m <;> simp only [step, stepBehind] at stepped <;> grind

theorem lexFrom_within (stepped : step m c = some (next, [])) :
    lexFrom m read (c :: s) = lexFrom next (read ++ [c]) s := by
  cases m <;> simp [lexFrom, stepped]

theorem lexFrom_found (stepped : step m c = some (next, [t])) :
    lexFrom m read (c :: s) = (lexFrom next [] s).map (⟨t, read ++ [c]⟩ :: ·) := by
  cases m <;> simp only [lexFrom, stepped, Option.map_eq_bind] <;> rfl

theorem lexFrom_stuck (stepped : step m c = none) : lexFrom m read (c :: s) = none := by
  cases m <;> simp [lexFrom, stepped]

/-- A first character ends the first lexeme or belongs to it. -/
theorem lexFrom_cons_cases (lexed : lexFrom m read (c :: s) = some l) :
    (∃ t later, step m c = some (.content, [t]) ∧ lexFrom .content [] s = some later ∧
      l = ⟨t, read ++ [c]⟩ :: later) ∨
    ∃ next, step m c = some (next, []) ∧ lexFrom next (read ++ [c]) s = some l := by
  cases stepped : step m c with
  | none =>
    rw [lexFrom_stuck stepped] at lexed
    cases lexed
  | some reached =>
    obtain ⟨next, found⟩ := reached
    rcases step_finds stepped with ⟨rfl, t, rfl⟩ | ⟨_, rfl⟩
    · rw [lexFrom_found stepped] at lexed
      obtain ⟨later, behind, rfl⟩ := Option.map_eq_some_iff.mp lexed
      exact .inl ⟨t, later, rfl, behind, rfl⟩
    · rw [lexFrom_within stepped] at lexed
      exact .inr ⟨next, rfl, lexed⟩

theorem lexFrom_append (lexed : lexFrom m read s = some l) (rest : List Char) :
    lexFrom m read (s ++ rest) = (lexFrom .content [] rest).map (l ++ ·) := by
  induction s generalizing m read l with
  | nil =>
    cases m <;> cases read <;> cases lexed
    simp
  | cons c s ih =>
    rcases lexFrom_cons_cases lexed with ⟨t, later, stepped, behind, rfl⟩ | ⟨next, stepped, within⟩
    · rw [List.cons_append, lexFrom_found stepped, ih behind, Option.map_map]
      rfl
    · rw [List.cons_append, lexFrom_within stepped, ih within]

/-- Lexemes leave no gaps. -/
theorem source_of_lexFrom (lexed : lexFrom m read s = some l) :
    l.flatMap Lexeme.source = read ++ s := by
  induction s generalizing m read l with
  | nil =>
    cases m <;> cases read <;> cases lexed
    rfl
  | cons c s ih =>
    rcases lexFrom_cons_cases lexed with ⟨t, later, _, behind, rfl⟩ | ⟨next, _, within⟩
    · rw [List.flatMap_cons, ih behind]
      simp
    · rw [ih within, List.append_assoc, List.singleton_append]

theorem Lexes.nil : Lexes [] [] := rfl

theorem Lexes.append {s t : List Char} {l k : List Lexeme} (first : Lexes s l) (later : Lexes t k) :
    Lexes (s ++ t) (l ++ k) := by
  rw [Lexes, lexFrom_append first, show lexFrom .content [] t = some k from later]
  rfl

theorem Lexes.flatMap {β : Type} {f : β → List Char} {g : β → List Lexeme} {l : List β}
    (each : ∀ b ∈ l, Lexes (f b) (g b)) : Lexes (l.flatMap f) (l.flatMap g) := by
  induction l with
  | nil => exact .nil
  | cons b rest ih =>
    obtain ⟨first, others⟩ := List.forall_mem_cons.mp each
    exact first.append (ih others)

/-- No characters lead back between tags without a token. -/
theorem eq_nil_of_reads (reads : Reads m s [] .content) : s = [] := by
  induction s generalizing m with
  | nil => rfl
  | cons c s ih =>
    obtain ⟨next, found, rest, stepped, later, split⟩ := reads_cons_iff.mp reads
    obtain ⟨rfl, rfl⟩ := List.append_eq_nil_iff.mp split.symm
    rcases step_finds stepped with ⟨_, t, ⟨⟩⟩ | ⟨within, _⟩
    cases ih later
    cases later
    exact absurd rfl within

/-- What is read as a single token is one lexeme. -/
theorem lexFrom_of_reads (reads : Reads m s [t] .content) :
    lexFrom m read s = some [⟨t, read ++ s⟩] := by
  induction s generalizing m read with
  | nil => cases reads
  | cons c s ih =>
    obtain ⟨next, found, rest, stepped, later, split⟩ := reads_cons_iff.mp reads
    rcases step_finds stepped with ⟨rfl, t', rfl⟩ | ⟨_, rfl⟩
    · cases split
      rw [lexFrom_found stepped, eq_nil_of_reads later]
      rfl
    · cases split
      rw [lexFrom_within stepped, ih later, List.append_assoc, List.singleton_append]

theorem Lexes.single (reads : Reads .content s [t] .content) : Lexes s [⟨t, s⟩] :=
  lexFrom_of_reads reads

/-- The lexemes of a piece. A text has one for each of its characters. -/
def pieceLexemes : Piece → List Lexeme
  | .text content => content.toList.map fun c => ⟨.letter c, escape [c]⟩
  | p => (tokens p).map fun t => ⟨t, p.render.toList⟩

def lineLexemes (l : Line) : List Lexeme :=
  List.replicate (2 * l.depth) ⟨.letter ' ', [' ']⟩ ++ l.pieces.flatMap pieceLexemes ++
    [⟨.letter '\n', ['\n']⟩]

theorem escape_eq_flatMap (s : List Char) : escape s = s.flatMap fun c => escape [c] := by
  induction s with
  | nil => rfl
  | cons c s ih => rw [List.flatMap_cons, ← ih, ← escape_append, List.singleton_append]

theorem lexes_piece {p : Piece} (sound : IsSound p) : Lexes p.render.toList (pieceLexemes p) := by
  have reads := reads_piece sound
  cases p with
  | text content =>
    have letters : Lexes (content.toList.flatMap fun c => escape [c])
        (content.toList.flatMap fun c => [⟨.letter c, escape [c]⟩]) :=
      .flatMap fun c _ => .single (reads_escape [c])
    rw [← List.map_eq_flatMap, ← escape_eq_flatMap] at letters
    simpa [Piece.render, escapeText, pieceLexemes] using letters
  | opening | closing | empty => exact .single reads

theorem lexes_line {l : Line} (sound : ∀ p ∈ l.pieces, IsSound p) :
    Lexes l.render.toList (lineLexemes l) := by
  have blank : Lexes [' '] [⟨.letter ' ', [' ']⟩] := rfl
  have indent (n : Nat) : Lexes (List.replicate n ' ')
      (List.replicate n ⟨.letter ' ', [' ']⟩) := by
    induction n with
    | zero => exact .nil
    | succ n ih => exact blank.append ih
  have newline : Lexes ['\n'] [⟨.letter '\n', ['\n']⟩] := rfl
  have pieces : Lexes (l.pieces.flatMap fun p => p.render.toList) (l.pieces.flatMap pieceLexemes) :=
    .flatMap fun p member => lexes_piece (sound p member)
  have whole := ((indent (2 * l.depth)).append pieces).append newline
  simpa [Line.render, lineLexemes, Text.toList_pushn, String.toList_join, List.flatMap_map]
    using whole

/-- Lines of sound pieces are cut into the lexemes of those pieces. -/
theorem lex_renderLines {l : List Line} (sound : ∀ line ∈ l, ∀ p ∈ line.pieces, IsSound p) :
    lex (renderLines l) = some (l.flatMap lineLexemes) := by
  have lexed : Lexes (l.flatMap fun line => line.render.toList) (l.flatMap lineLexemes) :=
    .flatMap fun line member => lexes_line (sound line member)
  rw [lex, renderLines, String.toList_join, List.flatMap_map]
  exact lexed

theorem flatMap_source_line (l : Line) :
    (lineLexemes l).flatMap Lexeme.source = l.render.toList := by
  have piece (p : Piece) : (pieceLexemes p).flatMap Lexeme.source = p.render.toList := by
    cases p with
    | text content =>
      simp [pieceLexemes, Piece.render, escapeText, List.flatMap_map, ← escape_eq_flatMap]
    | _ => simp [pieceLexemes, tokens]
  have pieces : (l.pieces.flatMap pieceLexemes).flatMap Lexeme.source =
      l.pieces.flatMap fun p => p.render.toList := by
    rw [List.flatMap_assoc]
    simp only [piece]
  rw [lineLexemes, List.flatMap_append, List.flatMap_append, pieces]
  simp [Line.render, Text.toList_pushn, String.toList_join, List.flatMap_map,
    List.flatMap_replicate]

theorem flatMap_source (l : List Line) :
    (l.flatMap lineLexemes).flatMap Lexeme.source = (renderLines l).toList := by
  rw [List.flatMap_assoc, renderLines, String.toList_join, List.flatMap_map]
  simp only [flatMap_source_line]

theorem map_token_line (l : Line) : (lineLexemes l).map Lexeme.token = lineTokens l := by
  have piece (p : Piece) : (pieceLexemes p).map Lexeme.token = tokens p := by
    cases p <;> simp [pieceLexemes, tokens, Function.comp_def]
  simp [lineLexemes, lineTokens, List.map_flatMap, piece]

/-- The lexemes hold the tokens and nothing else. -/
theorem map_token (l : List Line) :
    (l.flatMap lineLexemes).map Lexeme.token = l.flatMap lineTokens := by
  simp only [List.map_flatMap, map_token_line]

end Strata.Markup.Scan
