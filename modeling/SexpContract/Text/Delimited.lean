/-!
# Delimited Text

The text up to the first occurrence of a closing character.
-/

namespace SexpContract.Text

/-- The text before the first occurrence of a character, and the text after it. -/
def upTo (stop : Char) : List Char → Option (List Char × List Char)
  | [] => none
  | c :: rest =>
      if c = stop then some ([], rest)
      else (upTo stop rest).map fun (body, after) => (c :: body, after)

theorem append_upTo {stop : Char} {text body after : List Char}
    (h : upTo stop text = some (body, after)) : text = body ++ stop :: after := by
  induction text generalizing body with
  | nil => simp [upTo] at h
  | cons c rest ih =>
      rw [upTo] at h
      split at h
      · simp_all
      · obtain ⟨⟨body', after'⟩, hrest, heq⟩ := Option.map_eq_some_iff.1 h
        simp only [Prod.mk.injEq] at heq
        obtain ⟨rfl, rfl⟩ := heq
        simp [ih hrest]

theorem length_upTo {stop : Char} {text body after : List Char}
    (h : upTo stop text = some (body, after)) : after.length < text.length := by
  rw [append_upTo h, List.length_append, List.length_cons]
  omega

end SexpContract.Text
