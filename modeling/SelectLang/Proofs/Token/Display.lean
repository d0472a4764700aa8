import SelectLang.Proofs.Text.Quoted
import SelectLang.Token.Basic

/-!
# What the display of a token shows

A token is displayed as the name of its kind and its text in parentheses, quoted.  It stays on one
line, and it shows kind and text, whatever the text is (`display_unambiguous`).
-/

namespace SelectLang

open Text

namespace Token

/-- The text as it is displayed between the quotes. -/
def displayedText (token : Token) : List Char := token.text.toList.flatMap escape

theorem toList_display (token : Token) :
    token.display.toList =
      token.kind.name.toList ++ '(' :: '"' :: (token.displayedText ++ ['"', ')']) := by
  simp [display, quoted, displayedText]

/-- The name of the kind ends at the first parenthesis. -/
theorem takeWhile_display (token : Token) :
    token.display.toList.takeWhile (· ≠ '(') = token.kind.name.toList := by
  have hname : ∀ c ∈ token.kind.name.toList, decide (c ≠ '(') = true := by
    intro c hc
    rw [decide_eq_true_eq]
    rintro rfl
    exact absurd (Kind.isUpper_of_mem_name hc) (by decide)
  rw [token.toList_display, List.takeWhile_append_of_pos hname]
  simp

theorem isPrintable_of_mem_display {token : Token} {c : Char} (h : c ∈ token.display.toList) :
    isPrintable c = true := by
  have hdisplay : token.display.toList =
      token.kind.name.toList ++ '(' :: (quoted token.text.toList ++ [')']) := by
    simp [display]
  rw [hdisplay] at h
  simp only [List.mem_append, List.mem_cons, List.not_mem_nil, or_false] at h
  rcases h with hname | rfl | hquoted | rfl
  · have hupper := Kind.isUpper_of_mem_name hname
    have hle : 65 ≤ c.toNat ∧ c.toNat ≤ 90 := of_decide_eq_true hupper
    exact isPrintable_of_ascii (by omega) (by omega)
  · exact isPrintable_of_ascii (by decide) (by decide)
  · exact isPrintable_of_mem_quoted hquoted
  · exact isPrintable_of_ascii (by decide) (by decide)

theorem eq_of_display_eq {token token' : Token} (h : token.display = token'.display) :
    token.kind = token'.kind ∧ token.text = token'.text := by
  have hname : token.kind.name = token'.kind.name := by
    rw [← String.toList_inj, ← takeWhile_display, h, takeWhile_display]
  have hkind := Kind.name_injective hname
  have hlist := congrArg String.toList h
  rw [toList_display, toList_display, hname, List.append_cancel_left_eq] at hlist
  have htext : token.displayedText = token'.displayedText := by simpa using hlist
  have hread := congrArg unescape htext
  rw [displayedText, displayedText, unescape_flatMap_escape, unescape_flatMap_escape] at hread
  exact ⟨hkind, String.toList_inj.1 (Option.some.inj hread)⟩

end Token

/-- The display of a token is the name of its kind with the text in parentheses and quotes, from
which undoing the escapes brings back the text.  It holds no control character and no separator of
lines or paragraphs, and two tokens are displayed alike just if they have one kind and one text. -/
theorem display_unambiguous (token : Token) :
    token.display.toList =
        token.kind.name.toList ++ '(' :: '"' :: (token.displayedText ++ ['"', ')']) ∧
      unescape token.displayedText = some token.text.toList ∧
      (∀ c ∈ token.display.toList, isControl c = false ∧ c ≠ '\u2028' ∧ c ≠ '\u2029') ∧
      ∀ token' : Token, token.display = token'.display ↔
        token.kind = token'.kind ∧ token.text = token'.text := by
  refine ⟨token.toList_display, unescape_flatMap_escape _, fun c hc => ?_, fun token' => ?_⟩
  · have hprintable := Token.isPrintable_of_mem_display hc
    refine ⟨isControl_eq_false_of_isPrintable hprintable, ?_, ?_⟩
    · rintro rfl
      revert hprintable
      decide +kernel
    · rintro rfl
      revert hprintable
      decide +kernel
  · constructor
    · exact Token.eq_of_display_eq
    · rintro ⟨hkind, htext⟩
      rw [Token.display, Token.display, hkind, htext]

/-- A text that looks like an escape is told from the character that this escape would stand for. -/
theorem display_unambiguous_escape_in_text :
    let token : Token := ⟨.string, "\\u\x7b41\x7d\u0000\u0301", ⟨0, 0⟩⟩
    unescape token.displayedText = some token.text.toList ∧
      unescape "\\u\x7b41\x7d".toList = some ['A'] ∧
      token.display ≠ (⟨.string, "A\u0000\u0301", ⟨0, 0⟩⟩ : Token).display := by
  intro token
  obtain ⟨-, hread, -, hdistinct⟩ := display_unambiguous token
  exact ⟨hread, by decide +kernel, fun h => absurd ((hdistinct _).1 h).2 (by decide)⟩

end SelectLang
