import LinkContract.Proofs.Json.Numbers
import LinkContract.Proofs.Text.Lines

/-!
# Compact text stands on one line

Line feeds in strings are escaped and no layout character of compact text is one, so a
value written compactly never breaks a line, whatever its strings hold. An object begins
and ends with its braces, so there are no blanks to trim either.
-/
namespace LinkContract.Json

theorem lineFeed_not_mem_digits (number : Nat) : '\n' ∉ Decimal.digits number := by
  intro inside
  exact absurd (isDigit_of_mem_digits number '\n' inside) (by decide)

theorem lineFeed_not_mem_zeros (count : Nat) : '\n' ∉ Decimal.zeros count := by
  intro inside
  exact absurd (List.eq_of_mem_replicate inside) (by decide)

theorem lineFeed_not_mem_integerText (number : Int) : '\n' ∉ integerText number := by
  rw [integerText]
  split <;> simp [lineFeed_not_mem_digits]

/-! ### Doubles -/

theorem lineFeed_not_mem_positional (shown : List Char) (first : Int) (clear : '\n' ∉ shown) :
    '\n' ∉ Decimal.positional shown first := by
  have taken (count : Nat) : '\n' ∉ shown.take count :=
    fun inside => clear (List.mem_of_mem_take inside)
  have dropped (count : Nat) : '\n' ∉ shown.drop count :=
    fun inside => clear (List.mem_of_mem_drop inside)
  rw [Decimal.positional]
  split
  · simp [lineFeed_not_mem_zeros, clear]
  · dsimp only
    split
    · simp [lineFeed_not_mem_zeros, clear]
    · simp [taken, dropped]

theorem lineFeed_not_mem_withExponent (shown : List Char) (first : Int) (clear : '\n' ∉ shown) :
    '\n' ∉ Decimal.withExponent shown first := by
  have sign : '\n' ≠ (if first < 0 then '-' else '+') := by split <;> decide
  -- a point stands behind the first digit only if there is a second one
  rcases shown with _ | ⟨digit, _ | ⟨second, others⟩⟩
  · simp [Decimal.withExponent, sign, lineFeed_not_mem_digits]
  · simp only [List.mem_singleton] at clear
    simp [Decimal.withExponent, sign, lineFeed_not_mem_digits, clear]
  · simp only [List.mem_cons, not_or] at clear
    simp [Decimal.withExponent, sign, lineFeed_not_mem_digits, clear]

theorem lineFeed_not_mem_doubleText (style : Decimal.TextStyle) (number : Binary64) :
    '\n' ∉ style.doubleText number := by
  have shown : '\n' ∉ style.scientificText (Decimal.shortest number) := by
    rw [Decimal.TextStyle.scientificText]
    split
    · exact lineFeed_not_mem_positional _ _ (lineFeed_not_mem_digits _)
    · exact lineFeed_not_mem_withExponent _ _ (lineFeed_not_mem_digits _)
  have magnitude : '\n' ∉ (if number.isZero then ['0', '.', '0']
      else style.scientificText (Decimal.shortest number)) := by
    split
    · decide
    · exact shown
  rw [Decimal.TextStyle.doubleText]
  split
  · simp [magnitude]
  · exact magnitude

/-! ### Strings -/

theorem digitChar_ne_lineFeed : ∀ digit, digit < 16 → hexDigit digit ≠ '\n' := by decide

theorem lineFeed_not_mem_escape (c : Char) : '\n' ∉ escape c := by
  simp only [escape]
  -- the short escapes come first, then the codes, whose digits are no line feeds
  split
  · decide
  split
  · decide
  split
  · decide
  split
  · decide
  split
  · decide
  split
  · decide
  split
  · decide
  split
  next control =>
    have high := digitChar_ne_lineFeed (c.toNat / 16) (by omega)
    have low := digitChar_ne_lineFeed (c.toNat % 16) (by omega)
    simp [high.symm, low.symm]
  next notLineFeed _ _ _ =>
    rw [List.mem_singleton]
    exact fun same => notLineFeed same.symm

theorem lineFeed_not_mem_quoted (text : List Char) : '\n' ∉ quoted text := by
  simp only [quoted, List.mem_append, List.mem_cons, List.mem_flatMap, List.not_mem_nil, or_false]
  rintro ((same | ⟨c, _, inside⟩) | same)
  · exact absurd same (by decide)
  · exact lineFeed_not_mem_escape c inside
  · exact absurd same (by decide)

/-! ### Whole values -/

theorem lineBreak_compact (depth : Nat) : Layout.compact.lineBreak depth = [] := rfl

theorem afterColon_compact : Layout.compact.afterColon = [] := rfl

mutual

theorem lineFeed_not_mem_render (depth : Nat) :
    ∀ value : Json, '\n' ∉ render .compact depth value
  | .null => by simp [render]
  | .bool true => by simp [render]
  | .bool false => by simp [render]
  | .integer number => by simpa only [render] using lineFeed_not_mem_integerText number
  | .double number => by simpa only [render] using lineFeed_not_mem_doubleText doubleStyle number
  | .string text => by simpa only [render] using lineFeed_not_mem_quoted text.toList
  | .array [] => by simp [render]
  | .array (first :: rest) => by
    have head := lineFeed_not_mem_render (depth + 1) first
    have tail := lineFeed_not_mem_renderItems depth rest
    simp [render, lineBreak_compact, head, tail]
  | .object [] => by simp [render]
  | .object ((key, first) :: rest) => by
    have name := lineFeed_not_mem_quoted key.toList
    have head := lineFeed_not_mem_render (depth + 1) first
    have tail := lineFeed_not_mem_renderMembers depth rest
    simp [render, lineBreak_compact, afterColon_compact, name, head, tail]

theorem lineFeed_not_mem_renderItems (depth : Nat) :
    ∀ items : List Json, '\n' ∉ renderItems .compact depth items
  | [] => by simp [renderItems, lineBreak_compact]
  | item :: rest => by
    have head := lineFeed_not_mem_render (depth + 1) item
    have tail := lineFeed_not_mem_renderItems depth rest
    simp [renderItems, lineBreak_compact, head, tail]

theorem lineFeed_not_mem_renderMembers (depth : Nat) :
    ∀ members : List (String × Json), '\n' ∉ renderMembers .compact depth members
  | [] => by simp [renderMembers, lineBreak_compact]
  | (key, value) :: rest => by
    have name := lineFeed_not_mem_quoted key.toList
    have head := lineFeed_not_mem_render (depth + 1) value
    have tail := lineFeed_not_mem_renderMembers depth rest
    simp [renderMembers, lineBreak_compact, afterColon_compact, name, head, tail]

end

/-! ### Braces -/

theorem renderMembers_closed (layout : Layout) (depth : Nat) (members : Members) :
    ∃ inner, renderMembers layout depth members = inner ++ ['}'] := by
  induction members with
  | nil => exact ⟨layout.lineBreak depth, by rw [renderMembers]⟩
  | cons first rest ih =>
    obtain ⟨inner, shape⟩ := ih
    rw [renderMembers, shape, ← List.append_assoc]
    exact ⟨_, rfl⟩

theorem render_object (layout : Layout) (depth : Nat) (members : Members) :
    ∃ inner, render layout depth (.object members) = '{' :: inner ++ ['}'] := by
  cases members with
  | nil => exact ⟨[], by rw [render]; rfl⟩
  | cons first rest =>
    obtain ⟨inner, shape⟩ := renderMembers_closed layout depth rest
    obtain ⟨key, value⟩ := first
    simp only [render, shape, List.cons_append]
    exact ⟨_, by rw [← List.append_assoc]⟩

theorem trim_render_object (layout : Layout) (depth : Nat) (members : Members) :
    Text.trim (render layout depth (.object members)) = render layout depth (.object members) := by
  have brace : Text.EndsSolid ['}'] := Text.endsSolid_singleton '}' (by decide)
  obtain ⟨inner, shape⟩ := render_object layout depth members
  rw [shape, Text.trim, List.cons_append, Text.trimStart_cons _ _ (by decide), ← List.cons_append]
  exact Text.trimEnd_of_endsSolid _ (Text.endsSolid_append _ _ (by simp) brace)

end LinkContract.Json
