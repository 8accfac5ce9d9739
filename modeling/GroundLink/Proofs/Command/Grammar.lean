import GroundLink.Proofs.Command.Template

/-! # The grammar of templates

A template is a row of tokens: plain characters, doubled braces, and placeholders with a name that
holds no brace. What a token is shows at its start, so that a text is the writing of one row of
tokens at most; and a text is cut into pieces without a flaw exactly if there is one.
-/

namespace GroundLink.Command

/-- What a template consists of. -/
inductive Token where
  | plain (c : Char) (hplain : isBrace c = false)
  /-- A brace that is written twice. -/
  | doubled (c : Char) (hbrace : isBrace c = true)
  | placeholder (name : List Char) (hname : ∀ c ∈ name, isBrace c = false)

namespace Token

/-- The token as it is written in a template. -/
def written : Token → List Char
  | plain c _ => [c]
  | doubled c _ => [c, c]
  | placeholder name _ => '\x7b' :: (name ++ ['\x7d'])

def name? : Token → Option (List Char)
  | placeholder name _ => some name
  | _ => none

def piece (position : Nat) : Token → Piece
  | plain c _ => .literal c
  | doubled c _ => .literal c
  | placeholder name _ => .placeholder position name

/-- Braces come from doubled ones, and all other characters from plain ones. -/
theorem eq_of_piece {first second : Token} {position : Nat}
    (h : first.piece position = second.piece position) : first = second := by
  cases first with
  | plain c hplain =>
      cases second with
      | plain other hother =>
          cases h
          rfl
      | doubled other hbrace =>
          cases h
          exact absurd (hplain.symm.trans hbrace) Bool.false_ne_true
      | placeholder name hname => cases h
  | doubled c hbrace =>
      cases second with
      | plain other hplain =>
          cases h
          exact absurd (hplain.symm.trans hbrace) Bool.false_ne_true
      | doubled other hother =>
          cases h
          rfl
      | placeholder name hname => cases h
  | placeholder name hname =>
      cases second with
      | plain other hplain => cases h
      | doubled other hbrace => cases h
      | placeholder other hother =>
          cases h
          rfl

end Token

/-- The template that tokens make up. -/
def templateOf (tokens : List Token) : List Char := tokens.flatMap Token.written

/-- The pieces of the template that tokens make up. -/
def piecesOf (position : Nat) : List Token → List Piece
  | [] => []
  | token :: rest =>
      token.piece position :: piecesOf (position + octetCount token.written) rest

theorem isBrace_iff {c : Char} : isBrace c = true ↔ c = '\x7b' ∨ c = '\x7d' := by
  simp [isBrace]

theorem octetCount_cons (c : Char) (rest : List Char) :
    octetCount (c :: rest) = c.utf8Size + octetCount rest := rfl

theorem octetCount_append (first second : List Char) :
    octetCount (first ++ second) = octetCount first + octetCount second := by
  induction first with
  | nil => exact (Nat.zero_add _).symm
  | cons c rest ih => rw [List.cons_append, octetCount_cons, octetCount_cons, ih, Nat.add_assoc]

theorem pieces_templateOf (position : Nat) (tokens : List Token) :
    pieces position (templateOf tokens) = piecesOf position tokens := by
  induction tokens generalizing position with
  | nil => rw [templateOf, List.flatMap_nil, pieces, piecesOf]
  | cons token rest ih =>
      rw [templateOf, List.flatMap_cons, ← templateOf, piecesOf, ← ih]
      cases token with
      | plain c hplain =>
          rw [Token.written, pieces_plain (by simpa using hplain)]
          rfl
      | doubled c hbrace =>
          rcases isBrace_iff.mp hbrace with rfl | rfl
          · exact pieces.eq_2 position (templateOf rest)
          · exact pieces.eq_3 position (templateOf rest)
      | placeholder name hname =>
          have hcount : octetCount (Token.placeholder name hname).written =
              octetCount name + 2 := by
            have hopen : octetCount ['}'] = 1 := rfl
            have hclose : '{'.utf8Size = 1 := rfl
            rw [Token.written, octetCount_cons, octetCount_append, hopen, hclose]
            omega
          rw [hcount, Token.written, List.cons_append, List.append_assoc, List.singleton_append,
            pieces_placeholder hname, Token.piece, Nat.add_assoc]

/-- A template can be read in one way only. -/
theorem templateOf_injective : Function.Injective templateOf := by
  intro first second h
  have hpieces : piecesOf 0 first = piecesOf 0 second := by
    rw [← pieces_templateOf, h, pieces_templateOf]
  clear h
  generalize 0 = position at hpieces
  induction first generalizing second position with
  | nil =>
      cases second with
      | nil => rfl
      | cons other others => cases hpieces
  | cons token rest ih =>
      cases second with
      | nil => cases hpieces
      | cons other others =>
          obtain ⟨hpiece, hrest⟩ := List.cons.inj hpieces
          obtain rfl := Token.eq_of_piece hpiece
          rw [ih _ hrest]

/-- A text that is cut into pieces without a flaw is a template. -/
theorem exists_templateOf {position : Nat} {template : List Char}
    (hflaw : ∀ place flaw, .flawed place flaw ∉ pieces position template) :
    ∃ tokens, templateOf tokens = template := by
  fun_induction pieces position template with
  | case1 => exact ⟨[], rfl⟩
  | case2 position rest ih =>
      obtain ⟨tokens, rfl⟩ := ih fun place flaw h => hflaw place flaw (List.mem_cons_of_mem _ h)
      exact ⟨.doubled '\x7b' rfl :: tokens, rfl⟩
  | case3 position rest ih =>
      obtain ⟨tokens, rfl⟩ := ih fun place flaw h => hflaw place flaw (List.mem_cons_of_mem _ h)
      exact ⟨.doubled '\x7d' rfl :: tokens, rfl⟩
  | case4 | case6 => exact absurd List.mem_cons_self (hflaw _ _)
  | case5 position rest _ name after hafter _ ih =>
      obtain ⟨tokens, rfl⟩ := ih fun place flaw h => hflaw place flaw (List.mem_cons_of_mem _ h)
      have hname : ∀ c ∈ name, isBrace c = false := by
        intro c hc
        have hkept := List.all_eq_true.mp List.all_takeWhile c hc
        rwa [Bool.not_eq_true'] at hkept
      refine ⟨.placeholder name hname :: tokens, ?_⟩
      have hrest : name ++ '\x7d' :: templateOf tokens = rest := by
        rw [← hafter]
        exact List.takeWhile_append_dropWhile
      rw [← hrest]
      simp [templateOf, Token.written]
  | case7 position first rest _ _ hclose hopen ih =>
      obtain ⟨tokens, rfl⟩ := ih fun place flaw h => hflaw place flaw (List.mem_cons_of_mem _ h)
      have hplain : isBrace first = false := by
        rw [← Bool.not_eq_true, isBrace_iff]
        exact not_or.mpr ⟨hopen, hclose⟩
      exact ⟨.plain first hplain :: tokens, rfl⟩

end GroundLink.Command
