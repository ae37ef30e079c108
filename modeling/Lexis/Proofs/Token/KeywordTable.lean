import Lexis.Token.KeywordTable
import Lexis.Proofs.Utf8.Spelling

/-!
# The table of keywords

The table files every keyword under its spelling and the length of that, so that looking bytes up in
it is the same as comparing them with every keyword (`Keyword.lookup?_eq`).
-/

namespace Lexis

theorem Utf8.fromUTF8?_eq_some_iff {bytes : ByteArray} {text : String} :
    String.fromUTF8? bytes = some text ↔ bytes = text.toUTF8 := by
  constructor
  · intro h
    unfold String.fromUTF8? at h
    split at h
    · rw [← Option.some.inj h]
      rfl
    · cases h
  · rintro rfl
    exact dif_pos text.isValidUTF8

namespace Keyword

theorem spelling_of_mem_bucket {n : Nat} {row : String × Keyword} (h : row ∈ bucket n) :
    row.1 = row.2.spelling := by
  unfold bucket at h
  split at h
  case h_8 => cases h
  all_goals
    revert row
    decide

theorem lookup?_spelling (k : Keyword) : lookup? k.spelling.toUTF8 = some k := by
  cases k <;> rfl

theorem lookup?_eq_some_iff {text : ByteArray} {k : Keyword} :
    lookup? text = some k ↔ text = k.spelling.toUTF8 := by
  constructor
  · intro h
    unfold lookup? at h
    split at h
    · cases h
    · obtain ⟨row, hrow, rfl⟩ := Option.map_eq_some_iff.1 h
      have hdata := List.find?_some hrow
      have hfound : row.1.toUTF8 = text := ByteArray.ext (eq_of_beq hdata)
      rw [← spelling_of_mem_bucket (List.mem_of_find?_eq_some hrow), hfound]
  · rintro rfl
    exact lookup?_spelling k

theorem ofSpelling?_eq_some_iff {name : String} {k : Keyword} :
    ofSpelling? name = some k ↔ name = k.spelling := by
  constructor
  · intro h
    have hfound : k.spelling = name := by simpa using List.find?_some h
    exact hfound.symm
  · rintro rfl
    cases k <;> rfl

theorem lookup?_eq (text : ByteArray) :
    lookup? text = (String.fromUTF8? text).bind ofSpelling? := by
  ext k
  rw [lookup?_eq_some_iff, Option.bind_eq_some_iff]
  constructor
  · rintro rfl
    exact ⟨k.spelling, Utf8.fromUTF8?_eq_some_iff.2 rfl, ofSpelling?_eq_some_iff.2 rfl⟩
  · rintro ⟨name, htext, hname⟩
    rw [Utf8.fromUTF8?_eq_some_iff.1 htext, ofSpelling?_eq_some_iff.1 hname]

/-- No keyword has a number sign. -/
theorem numberSign_not_mem_spelling (k : Keyword) : '#' ∉ k.spelling.toList := by
  cases k <;> decide

end Keyword

end Lexis
