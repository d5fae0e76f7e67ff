import RouteHighlight.Text.Span

/-!
# Byte lengths, slices and boundaries

Lengths and slices of the library against those of `String`: a place behind some characters of a
text is a valid position there, and the slice between two such places is what stands between.
-/

namespace RouteHighlight.Text

theorem utf8ByteSize_ofList (cs : List Char) :
    (String.ofList cs).utf8ByteSize = byteLength cs := by
  induction cs with
  | nil => rfl
  | cons c cs ih =>
      rw [show c :: cs = [c] ++ cs from rfl, String.ofList_append, String.utf8ByteSize_append, ih]
      simp

theorem byteLength_toList (s : String) : byteLength s.toList = s.utf8ByteSize := by
  rw [← utf8ByteSize_ofList, String.ofList_toList]

theorem byteLength_eq_zero_iff {cs : List Char} : byteLength cs = 0 ↔ cs = [] := by
  cases cs with
  | nil => simp
  | cons c cs =>
      have := c.utf8Size_pos
      simp only [byteLength_cons, reduceCtorEq, iff_false]
      omega

theorem byteLength_pos {cs : List Char} (h : cs ≠ []) : 0 < byteLength cs := by
  rw [Nat.pos_iff_ne_zero, ne_eq, byteLength_eq_zero_iff]
  exact h

/-- A text is cut at most once at a byte offset. -/
theorem append_inj_of_byteLength {xs ys xs' ys' : List Char} (h : xs ++ ys = xs' ++ ys')
    (hlength : byteLength xs = byteLength xs') : xs = xs' ∧ ys = ys' := by
  have htake := takeBytes?_byteLength xs ys
  have hdrop := dropBytes?_byteLength xs ys
  rw [h, hlength, takeBytes?_byteLength] at htake
  rw [h, hlength, dropBytes?_byteLength] at hdrop
  exact ⟨(Option.some.inj htake).symm, (Option.some.inj hdrop).symm⟩

theorem eq_append_of_dropBytes? {n : Nat} {cs rest : List Char} (h : dropBytes? n cs = some rest) :
    ∃ before, cs = before ++ rest ∧ byteLength before = n := by
  induction cs generalizing n with
  | nil =>
      simp only [dropBytes?, Option.ite_none_right_eq_some, Option.some.injEq] at h
      exact ⟨[], by simp [h.2], by simp [h.1]⟩
  | cons c cs ih =>
      unfold dropBytes? at h
      split at h
      next hzero => exact ⟨[], by simpa using h, by simp [hzero]⟩
      next =>
        split at h
        next hle =>
          obtain ⟨before, rfl, hlength⟩ := ih h
          refine ⟨c :: before, rfl, ?_⟩
          rw [byteLength_cons, hlength]
          omega
        next => contradiction

theorem eq_append_of_takeBytes? {n : Nat} {cs text : List Char} (h : takeBytes? n cs = some text) :
    ∃ behind, cs = text ++ behind ∧ byteLength text = n := by
  induction cs generalizing n text with
  | nil =>
      simp only [takeBytes?, Option.ite_none_right_eq_some, Option.some.injEq] at h
      exact ⟨[], by simp [← h.2], by simp [← h.2, h.1]⟩
  | cons c cs ih =>
      unfold takeBytes? at h
      split at h
      next hzero =>
        obtain rfl := Option.some.inj h
        exact ⟨c :: cs, rfl, by simp [hzero]⟩
      next =>
        split at h
        next hle =>
          obtain ⟨text, htext, rfl⟩ := Option.map_eq_some_iff.1 h
          obtain ⟨behind, rfl, hlength⟩ := ih htext
          refine ⟨behind, rfl, ?_⟩
          rw [byteLength_cons, hlength]
          omega
        next => contradiction

theorem exists_takeBytes? {n : Nat} {cs rest : List Char} (h : dropBytes? n cs = some rest) :
    ∃ text, takeBytes? n cs = some text := by
  obtain ⟨text, rfl, rfl⟩ := eq_append_of_dropBytes? h
  exact ⟨text, takeBytes?_byteLength text rest⟩

theorem takeBytes?_eq_none {n : Nat} {cs : List Char} (h : dropBytes? n cs = none) :
    takeBytes? n cs = none := by
  cases htake : takeBytes? n cs with
  | none => rfl
  | some text =>
      obtain ⟨behind, rfl, rfl⟩ := eq_append_of_takeBytes? htake
      rw [dropBytes?_byteLength] at h
      contradiction

theorem Place.offset_of_seek? {chars : List Char} {here place : Place chars} {offset : Nat}
    (h : here.seek? offset = some place) : place.offset = offset := by
  unfold Place.seek? at h
  split at h
  · split at h
    · rw [← Option.some.inj h]
    · contradiction
  · split at h
    · rw [← Option.some.inj h]
    · contradiction

theorem Place.seek?_append {chars before rest : List Char} (h : chars = before ++ rest)
    (here : Place chars) :
    ∃ place, here.seek? (byteLength before) = some place ∧ place.offset = byteLength before ∧
      place.rest = rest := by
  have hfound : dropBytes? (byteLength before) chars = some rest := by
    rw [h, dropBytes?_byteLength]
  have hrest := here.map_rest_seek? (byteLength before)
  rw [hfound, Option.map_eq_some_iff] at hrest
  obtain ⟨place, hplace, hbehind⟩ := hrest
  exact ⟨place, hplace, offset_of_seek? hplace, hbehind⟩

theorem slice?_of_append {source : String} (before text rest : List Char)
    (h : source.toList = before ++ (text ++ rest)) :
    (Span.mk (byteLength before) (byteLength before + byteLength text)).slice? source =
      some (String.ofList text) := by
  have hsource : source = String.ofList (before ++ (text ++ rest)) := by
    rw [← h, String.ofList_toList]
  rw [hsource]
  exact Span.slice?_after before text rest

theorem isValid_of_append {source : String} {before rest : List Char}
    (h : source.toList = before ++ rest) :
    (String.Pos.Raw.mk (byteLength before)).IsValid source := by
  rw [String.Pos.Raw.isValid_iff_exists_append]
  refine ⟨String.ofList before, String.ofList rest, ?_, ?_⟩
  · rw [← String.ofList_append, ← h, String.ofList_toList]
  · apply String.Pos.Raw.ext
    exact (utf8ByteSize_ofList before).symm

end RouteHighlight.Text
