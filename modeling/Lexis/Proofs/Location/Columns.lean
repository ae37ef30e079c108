import Lexis.Proofs.Location.Prefix
import Lexis.Proofs.Location.Tracker
import Lexis.Proofs.Token.KeywordTable
import Lexis.Proofs.Utf8.Encoding

/-!
# Columns index lines

A column is counted in bytes that continue no code point, and the text of a line is shown with
malformed bytes replaced. Up to a boundary both go by the same code points, so that the column of an
offset is an index into the text of its line (`LineTracker.Sound.indexes_location`), whatever a
tracker has been asked before.
-/

namespace Lexis

open CharClass

open Utf8 (IsBoundary Spells charAt? lossy lossyFrom)

variable {bytes : ByteArray} {start stop offset limit : Nat} {ch : Char} {text : List Char}

namespace Utf8

/-! ## Text that is kept -/

theorem lossyFrom_of_some (h : charAt? bytes offset = some ch) :
    lossyFrom bytes offset = ch :: lossyFrom bytes (offset + ch.utf8Size) := by
  rw [lossyFrom, if_pos (lt_size_of_charAt? h)]
  simp only [h]

theorem lossyFrom_of_spells (h : Spells bytes start stop text) :
    lossyFrom bytes start = text ++ lossyFrom bytes stop := by
  induction text generalizing start with
  | nil =>
    have hstop : stop = start := h.stop_eq
    rw [hstop, List.nil_append]
  | cons ch text ih =>
    obtain ⟨hch, hrest⟩ := Spells.cons_iff.1 h
    rw [lossyFrom_of_some hch, ih hrest, List.cons_append]

/-- Bytes that are text are not replaced, wherever that is looked at. -/
theorem toList_lossy (bytes : ByteArray) : (lossy bytes).toList = lossyFrom bytes 0 := by
  unfold lossy
  cases htext : String.fromUTF8? bytes with
  | none => exact String.toList_ofList
  | some text =>
    have hbytes : bytes = text.toList.utf8Encode :=
      (fromUTF8?_eq_some_iff.1 htext).trans text.utf8Encode_toList.symm
    have hspells : Spells bytes 0 bytes.size text.toList :=
      ⟨Nat.zero_le _, Nat.le_refl _, ByteArray.extract_zero_size.trans hbytes⟩
    have hend : lossyFrom bytes bytes.size = [] := by
      rw [lossyFrom, if_neg (Nat.lt_irrefl _)]
    rw [lossyFrom_of_spells hspells, hend, List.append_nil]

/-- What is shown of bytes begins with the text that they begin with. -/
theorem Spells.prefix_lossy (h : Spells bytes start stop text) (hle : stop ≤ limit)
    (hlimit : limit ≤ bytes.size) :
    text <+: (lossy ((Span.mk start limit).slice bytes)).toList := by
  have hslice : (Span.mk start limit).slice bytes = bytes.extract start limit := by
    rw [Span.slice, Span.slice?, if_pos ⟨Nat.le_trans h.start_le hle, hlimit⟩]
    rfl
  have hspells : Spells (bytes.extract start limit) 0 (stop - start) text := by
    refine ⟨Nat.zero_le _, ?_, ?_⟩
    · rw [ByteArray.size_extract]
      omega
    · rw [ByteArray.extract_extract, Nat.add_zero, Nat.add_sub_cancel' h.start_le,
        Nat.min_eq_left hle, h.extract_eq]
  rw [hslice, toList_lossy, lossyFrom_of_spells hspells]
  exact List.prefix_append _ _

theorem Spells.countP_eq_length (h : Spells bytes start stop text) :
    (bytes.extract start stop).data.toList.countP (!isContinuation ·) = text.length := by
  rw [h.extract_eq]
  clear h
  induction text with
  | nil => rfl
  | cons ch text ih =>
    have hfirst : [ch].utf8Encode.data.toList = String.utf8EncodeChar ch := by
      simp [List.utf8Encode_singleton]
    rw [List.utf8Encode_cons, ByteArray.data_append, Array.toList_append, List.countP_append, ih,
      hfirst, countP_utf8EncodeChar, List.length_cons, Nat.add_comm]

end Utf8

/-! ## Lines of a text -/

/-- A line terminator in a text ends where a code point does. -/
theorem exists_spells_of_terminator (h : Spells bytes start stop text) (hle : start ≤ offset)
    (hlt : offset < stop) (hwidth : terminatorWidthAt bytes offset ≠ 0) :
    ∃ behind, Spells bytes (offset + terminatorWidthAt bytes offset) stop behind := by
  obtain ⟨first, ch, behind, hch, hle, hinside, hrest⟩ := h.exists_charAt? hle hlt
  obtain rfl | hlt := Nat.eq_or_lt_of_le hle
  · have hterm := isLineTerminator_of_terminatorWidthAt hch hwidth
    rw [terminatorWidthAt_of_isLineTerminator hch hterm]
    exact ⟨behind, hrest⟩
  · exact absurd (terminatorWidthAt_inside hch hlt hinside) hwidth

theorem Outside.of_isBoundary (h : IsBoundary bytes offset) : Outside bytes offset := by
  obtain ⟨text, hspells⟩ := Utf8.isBoundary_iff_exists_spells.1 h
  intro start hlt
  by_cases hwidth : terminatorWidthAt bytes start = 0
  · rw [hwidth]
    exact Nat.le_of_lt hlt
  · obtain ⟨behind, hbehind⟩ := exists_spells_of_terminator hspells (Nat.zero_le _) hlt hwidth
    exact hbehind.start_le

/-- From the beginning of its line up to a boundary there is nothing but text. -/
theorem exists_spells_lineStart (h : IsBoundary bytes offset) :
    ∃ text, Spells bytes (lineStartBefore bytes offset) offset text := by
  obtain ⟨text, hspells⟩ := Utf8.isBoundary_iff_exists_spells.1 h
  obtain hzero | hwidth := lineStartBefore_eq_zero_or bytes offset
  · rw [hzero]
    exact ⟨text, hspells⟩
  · obtain ⟨hback, hstart⟩ := terminatorWidthAt_sub hwidth
    have hle := lineStartBefore_le bytes offset
    have hbehind := exists_spells_of_terminator hspells (Nat.zero_le _)
      (show lineStartBefore bytes offset -
        terminatorWidthBefore bytes (lineStartBefore bytes offset) < offset by omega)
      (by rwa [hstart])
    rwa [hstart, Nat.sub_add_cancel hback] at hbehind

/-- No line ends inside a code point. -/
theorem add_utf8Size_le_lineEndFrom (h : charAt? bytes offset = some ch)
    (hlt : offset < lineEndFrom bytes start) : offset + ch.utf8Size ≤ lineEndFrom bytes start := by
  obtain hsize | hwidth := lineEndFrom_eq_size_or bytes start
  · rw [hsize]
    exact Utf8.le_size_of_charAt? h
  · refine Nat.le_of_not_lt fun hinside => hwidth ?_
    exact terminatorWidthAt_inside h hlt hinside

/-- At a boundary a walk comes to rest. -/
theorem place_of_isBoundary (h : IsBoundary bytes offset) :
    (place bytes offset).column =
        codePointsIn bytes (lineStartBefore bytes offset) (offset - lineStartBefore bytes offset) ∧
      (place bytes offset).lineStart = lineStartBefore bytes offset ∧
      (place bytes offset).lineEnd = lineEndFrom bytes offset := by
  have hmin : min offset bytes.size = offset := Nat.min_eq_left h.1
  have hrest : Settles bytes (min offset bytes.size) offset := by
    rw [hmin]
    exact ⟨.of_isBoundary h, Nat.le_refl _, .inl rfl⟩
  rw [place_eq hrest, hmin]
  exact ⟨rfl, rfl, rfl⟩

/-! ## Columns -/

/-- The column of the location is an index into the text of its line: in front of it stand the code
points from the beginning of the line up to the offset, and at it the one that begins at the offset,
unless the line or the text of the buffer ends there. -/
structure Indexes (bytes : ByteArray) (offset : Nat) (l : Location) : Prop where
  before : ∃ text, Spells bytes (place bytes offset).lineStart offset text ∧
    text.length = l.column ∧ l.lineText.toList.take l.column = text
  current : ∀ stop, IsBoundary bytes stop → offset < stop → offset < (place bytes offset).lineEnd →
    ∃ ch, charAt? bytes offset = some ch ∧ l.lineText.toList[l.column]? = some ch

/-- Before the end of the text of a buffer a code point begins at each boundary. -/
theorem Utf8.IsBoundary.exists_charAt? (h : IsBoundary bytes offset) (hstop : IsBoundary bytes stop)
    (hlt : offset < stop) : ∃ ch, charAt? bytes offset = some ch := by
  have hend := (Utf8.spells_validEnd h.1).stop_eq
  have hle := (Utf8.isGreatest_validEnd bytes).2 hstop
  rw [← h.validEnd_eq, hend] at hle
  rw [← Option.isSome_iff_exists, ← Utf8.head?_textFrom]
  cases htext : Utf8.textFrom bytes offset with
  | nil =>
    rw [htext] at hle
    exact absurd hle (Nat.not_le_of_lt hlt)
  | cons ch text => rfl

theorem indexes_of_place {l : Location} (h : IsBoundary bytes offset)
    (hcolumn : l.column = (place bytes offset).column)
    (hline : l.lineText =
      lossy ((Span.mk (place bytes offset).lineStart (place bytes offset).lineEnd).slice bytes)) :
    Indexes bytes offset l := by
  obtain ⟨hcount, hstart, hend⟩ := place_of_isBoundary h
  obtain ⟨text, hspells⟩ := exists_spells_lineStart h
  have hle := le_lineEndFrom h.1
  have hsize := lineEndFrom_le_size bytes offset
  have hlength : text.length = l.column := by
    rw [hcolumn, hcount, codePointsIn_eq, Nat.add_sub_cancel' (lineStartBefore_le bytes offset),
      hspells.countP_eq_length]
  rw [hstart, hend] at hline
  constructor
  · rw [hstart]
    refine ⟨text, hspells, hlength, ?_⟩
    rw [hline, ← hlength]
    exact (List.prefix_iff_eq_take.1 (hspells.prefix_lossy hle hsize)).symm
  · intro stop hstop hlt hinside
    obtain ⟨ch, hch⟩ := h.exists_charAt? hstop hlt
    refine ⟨ch, hch, ?_⟩
    rw [hend] at hinside
    have hnext := hspells.append (Utf8.Spells.singleton_iff.2 ⟨hch, rfl⟩)
    obtain ⟨rest, hrest⟩ := hnext.prefix_lossy (add_utf8Size_le_lineEndFrom hch hinside) hsize
    rw [hline, ← hrest, ← hlength, List.append_assoc, List.getElem?_append_right (Nat.le_refl _),
      Nat.sub_self]
    rfl

namespace LineTracker

/-- What a tracker can be asked. -/
inductive Query where
  /-- The coordinates of an offset. -/
  | place (offset : Nat)
  /-- The location of a span. -/
  | location (span : Span)

/-- The tracker behind a query. -/
def ask (t : LineTracker) : Query → LineTracker
  | .place offset => (t.locate offset).2
  | .location span => (t.location span).2

/-- The tracker behind queries one after another. -/
def askAll (t : LineTracker) (queries : List Query) : LineTracker := queries.foldl ask t

variable {t : LineTracker}

theorem ask_frame (t : LineTracker) (query : Query) : (t.ask query).bytes = t.bytes := by
  cases query with
  | place offset => exact (t.locate_frame offset).2
  | location span => exact (t.locate_frame span.start).2

theorem Sound.ask (h : t.Sound) (query : Query) : (t.ask query).Sound := by
  cases query with
  | place offset => exact (h.locate offset).2
  | location span => exact (h.location span).2.1

theorem Sound.askAll (h : t.Sound) (queries : List Query) :
    (t.askAll queries).Sound ∧ (t.askAll queries).bytes = t.bytes := by
  induction queries generalizing t with
  | nil => exact ⟨h, rfl⟩
  | cons query queries ih =>
    obtain ⟨hsound, hbytes⟩ := ih (h.ask query)
    exact ⟨hsound, hbytes.trans (t.ask_frame query)⟩

theorem Sound.indexes_location (h : t.Sound) (span : Span)
    (hstart : IsBoundary t.bytes span.start) :
    Indexes t.bytes span.start (t.location span).1 := by
  obtain ⟨hplace, -⟩ := h.locate span.start
  have hbytes := (t.locate_frame span.start).2
  apply indexes_of_place hstart
  · simp only [LineTracker.location, hplace]
  · simp only [LineTracker.location, lineText, hplace, hbytes]

end LineTracker

end Lexis
