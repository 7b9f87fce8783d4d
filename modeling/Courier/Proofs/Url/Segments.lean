import Courier.Proofs.Text.Utf8
import Courier.Url.Basic

/-!
# Segments joined to a URL

A segment is plain if it is no dot segment and holds none of the characters that vanish when it is
written. Plain segments stand in the path one by one, and each can be read back from its written
form; of any other segment something is lost.

Results:

* `Url.decodeText?_writeSegment`: what is read back from the written form of a segment.
* `Url.path_join`: the path of a URL to which plain segments were joined.
* `Url.exists_push_iff`: which segments can be read back from the path to which they were added.
* `Url.target_inj`: requests to URLs that differ in their last segment name different targets.
-/

namespace Courier.Url

/-! ## Plain segments -/

/-- Whether a character stays when a segment is written. -/
def isKept (c : Char) : Bool := c ≠ '\t' ∧ c ≠ '\n' ∧ c ≠ '\r'

/-- Whether a segment is written as it is: it is no dot segment, and no character vanishes. -/
def IsPlain (segment : String) : Prop :=
  segment ≠ "." ∧ segment ≠ ".." ∧ ∀ c ∈ segment.toList, isKept c = true

instance (segment : String) : Decidable (IsPlain segment) :=
  decidable_of_iff (segment ≠ "." ∧ segment ≠ ".." ∧ segment.toList.all isKept = true)
    (by rw [IsPlain, List.all_eq_true])

/-- A segment without the characters that vanish. -/
def kept (segment : String) : String := String.ofList (segment.toList.filter isKept)

theorem kept_of_isPlain {segment : String} (h : IsPlain segment) : kept segment = segment := by
  rw [kept, List.filter_eq_self.2 h.2.2, String.ofList_toList]

theorem isPlain_of_kept {segment : String} (h : kept segment = segment) (hdot : segment ≠ ".")
    (hdots : segment ≠ "..") : IsPlain segment := by
  refine ⟨hdot, hdots, List.filter_eq_self.1 ?_⟩
  rw [← String.toList_ofList (l := segment.toList.filter isKept)]
  exact congrArg String.toList h

/-! ## Reading back -/

theorem toList_writeSegment (segment : String) :
    (writeSegment segment).toList =
      Percent.encode Percent.segment (segment.toList.filter isKept) := by
  rw [writeSegment, String.toList_ofList]
  rfl

/-- Reading a written segment gives it back without the characters that vanished. -/
theorem decodeText?_writeSegment (segment : String) :
    Utf8.decodeText? (Percent.decode (writeSegment segment).toList) = some (kept segment) := by
  rw [toList_writeSegment, Percent.decode_encode rfl, Utf8.decodeText?_flatMap, kept]

/-- A written segment without any percent sign is what was to be written. -/
theorem kept_of_writeSegment {segment written : String} (h : writeSegment segment = written)
    (hread : Utf8.decodeText? (Percent.decode written.toList) = some written) :
    kept segment = written := by
  have hkept := decodeText?_writeSegment segment
  rw [h, hread] at hkept
  exact (Option.some.inj hkept).symm

/-! ## Joining -/

/-- The path that segments are joined to: without one empty last segment. A path that is only a
    slash has no segments. -/
def folder (u : Url) : List String := if popEmpty u.path = [""] then [] else popEmpty u.path

theorem addSegment_popEmpty (u : Url) (segment : String) :
    addSegment (popEmpty u.path) segment = u.folder ++ [segment] := by
  unfold addSegment folder
  split <;> rfl

theorem addSegment_of_ne {path : List String} (h : path ≠ [""]) (segment : String) :
    addSegment path segment = path ++ [segment] := if_neg h

theorem push_of_dots {segment : String} (h : segment = "." ∨ segment = "..") (path : List String) :
    push path segment = path := if_pos h

/-- What is written for a segment that is not left out and whose written form is no dot segment. -/
theorem push_of_written {path : List String} {segment : String}
    (h : ¬ (segment = "." ∨ segment = "..")) (hdot : writeSegment segment ≠ ".")
    (hdots : writeSegment segment ≠ "..") :
    push path segment = addSegment path (writeSegment segment) := by
  unfold push
  rw [if_neg h]
  split
  · exact absurd ‹_› hdot
  · exact absurd ‹_› hdots
  · rfl

theorem push_of_isPlain {segment : String} (h : IsPlain segment) (path : List String) :
    push path segment = addSegment path (writeSegment segment) := by
  have hkept := kept_of_isPlain h
  refine push_of_written (not_or.2 ⟨h.1, h.2.1⟩) ?_ ?_
  · intro hw
    exact h.1 (hkept.symm.trans (kept_of_writeSegment hw (by decide +kernel)))
  · intro hw
    exact h.2.1 (hkept.symm.trans (kept_of_writeSegment hw (by decide +kernel)))

/-- Plain segments are added one by one to a path that is more than a slash. -/
theorem foldl_push {path segments : List String} (hpath : ∃ s ∈ path, s ≠ "")
    (h : ∀ s ∈ segments, IsPlain s) :
    segments.foldl push path = path ++ segments.map writeSegment := by
  induction segments generalizing path with
  | nil => exact (List.append_nil path).symm
  | cons segment rest ih =>
    have hne : path ≠ [""] := by
      rintro rfl
      obtain ⟨s, hs, hs'⟩ := hpath
      exact hs' (List.mem_singleton.1 hs)
    obtain ⟨s, hs, hs'⟩ := hpath
    rw [List.foldl_cons, push_of_isPlain (h _ List.mem_cons_self), addSegment_of_ne hne,
      ih ⟨s, List.mem_append_left _ hs, hs'⟩ fun s hs => h s (List.mem_cons_of_mem _ hs),
      List.map_cons, List.append_assoc, List.singleton_append]

/-- The path of a URL to which plain segments were joined, the first of which is not empty. -/
theorem path_join (u : Url) {first : String} {segments : List String} (hfirst : IsPlain first)
    (hne : first ≠ "") (h : ∀ s ∈ segments, IsPlain s) :
    (u.join (first :: segments)).path = u.folder ++ (first :: segments).map writeSegment := by
  have hwritten : writeSegment first ≠ "" := by
    intro hw
    exact hne ((kept_of_isPlain hfirst).symm.trans (kept_of_writeSegment hw (by decide +kernel)))
  show (first :: segments).foldl push (popEmpty u.path) = _
  rw [List.foldl_cons, push_of_isPlain hfirst, addSegment_popEmpty,
    foldl_push ⟨_, List.mem_append_right _ (List.mem_singleton_self _), hwritten⟩ h,
    List.map_cons, List.append_assoc, List.singleton_append]

theorem length_addSegment_outer_le {path : List String} (h : path ≠ []) (segment : String)
    (hdrive : path.getLast?.any isDrive = false) :
    (addSegment (outer path) segment).length ≤ path.length := by
  have hpos := List.length_pos_iff.2 h
  have houter : outer path = path.dropLast := if_neg (by rw [hdrive]; exact Bool.false_ne_true)
  rw [houter, addSegment]
  split
  · exact hpos
  · rw [List.length_append, List.length_dropLast]
    exact Nat.le_of_eq (Nat.sub_add_cancel hpos)

/-- A segment that becomes a dot leaves an empty one. -/
theorem push_of_written_dot {path : List String} (hslash : path ≠ [""]) {segment : String}
    (h : ¬ (segment = "." ∨ segment = "..")) (hdot : writeSegment segment = ".") :
    push path segment = path ++ [""] := by
  unfold push
  rw [if_neg h]
  simp only [hdot]
  exact addSegment_of_ne hslash ""

/-- A segment that becomes two dots takes the last one away. -/
theorem length_push_of_written_dots {path : List String} (hpath : path ≠ []) (hslash : path ≠ [""])
    (hdrive : path.getLast?.any isDrive = false) {segment : String}
    (h : ¬ (segment = "." ∨ segment = "..")) (hdots : writeSegment segment = "..") :
    (push path segment).length ≤ path.length := by
  unfold push
  rw [if_neg h]
  simp only [hdots]
  rw [if_neg hslash]
  exact length_addSegment_outer_le hpath "" hdrive

/-- A segment can be read back from the end of the path to which it was added exactly if it is
    plain. -/
theorem exists_push_iff {path : List String} (hpath : path ≠ []) (hslash : path ≠ [""])
    (hdrive : path.getLast?.any isDrive = false) (segment : String) :
    (∃ s, push path segment = path ++ [s] ∧
        Utf8.decodeText? (Percent.decode s.toList) = some segment) ↔ IsPlain segment := by
  constructor
  · rintro ⟨s, hpush, hread⟩
    have hlength := congrArg List.length hpush
    rw [List.length_append, List.length_singleton] at hlength
    by_cases hdots : segment = "." ∨ segment = ".."
    · rw [push_of_dots hdots] at hlength
      omega
    · by_cases hdot : writeSegment segment = "."
      · -- An empty segment stands for what became a dot, and nothing but itself is read from it.
        obtain rfl : s = "" := by
          simpa using (push_of_written_dot hslash hdots hdot).symm.trans hpush
        have hnone : Utf8.decodeText? (Percent.decode "".toList) = some "" := by decide +kernel
        obtain rfl := Option.some.inj (hnone.symm.trans hread)
        exact absurd hdot (by decide +kernel)
      · by_cases houter : writeSegment segment = ".."
        · have hle := length_push_of_written_dots hpath hslash hdrive hdots houter
          omega
        · rw [push_of_written hdots hdot houter, addSegment_of_ne hslash] at hpush
          obtain rfl : writeSegment segment = s := by simpa using hpush
          rw [decodeText?_writeSegment] at hread
          rw [not_or] at hdots
          exact isPlain_of_kept (Option.some.inj hread) hdots.1 hdots.2
  · intro h
    refine ⟨writeSegment segment, ?_, ?_⟩
    · rw [push_of_isPlain h, addSegment_of_ne hslash]
    · rw [decodeText?_writeSegment, kept_of_isPlain h]

/-! ## Written URLs -/

/-- Requests to URLs that differ in their last segment name different targets. -/
theorem target_inj {u : Url} {path : List String} {a b : String} (hpath : path ≠ [])
    (h : ({ u with path := path ++ [a] } : Url).target =
      ({ u with path := path ++ [b] } : Url).target) : a = b := by
  unfold target pathText at h
  rw [String.intercalate_append_of_ne_nil hpath (by simp),
    String.intercalate_append_of_ne_nil hpath (by simp), String.intercalate_singleton,
    String.intercalate_singleton] at h
  simpa [String.append_assoc] using h

end Courier.Url
