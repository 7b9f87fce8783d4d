import Courier.Certificate.Der
import Courier.Proofs.Certificate.Bundle
import Courier.Proofs.Certificate.Topics

/-!
# Nested topic lists

A certificate may group its topics into sequences inside one another, each in its distinguished
encoding. A reader of topic lists takes one length byte of every sequence, which is all of the
length as long as the content stays below 128 bytes. The bounds of the groups do not matter to it,
so up to that size every grouping is read as its topics. From there on a length has more bytes, and
the second one is taken for a tag.

Results:

* `Topics.Entry.exists_blocks`: short entries are complete blocks, whatever their nesting.
* `Topics.extract_encode`, `Topics.extract_encode_long`: what is read of short and of long lists.
* `Topics.extract_nested`: which nested lists are read, and what a bundle with them allows.
-/

namespace Courier

/-! ## Elements -/

namespace Der

theorem lengthBytes_of_lt {n : Nat} (h : n < 128) : lengthBytes n = [UInt8.ofNat n] := if_pos h

/-- A short element takes two bytes more than its content. -/
theorem encode_of_lt {e : Element} (h : e.content.length < 128) :
    e.encode = e.tag.byte :: UInt8.ofNat e.content.length :: e.content := by
  rw [Element.encode, lengthBytes_of_lt h]
  rfl

theorem encode_of_le {e : Element} (h : 128 ≤ e.content.length) :
    e.encode = e.tag.byte :: UInt8.ofNat (128 + (digits256 e.content.length).length) ::
      (digits256 e.content.length ++ e.content) := by
  rw [Element.encode, lengthBytes, if_neg (Nat.not_lt.2 h)]
  rfl

theorem content_length_lt (e : Element) : e.content.length < e.encode.length := by
  rw [Element.encode, List.length_append, List.length_cons]
  omega

end Der

namespace Topics

/-! ## Entries -/

/-- What a nested list holds: topics and groups of them. -/
inductive Entry
  | topic (text : String)
  | group (entries : List Entry)
  deriving Inhabited

namespace Entry

mutual

/-- The distinguished encoding of an entry. -/
def encode : Entry → List UInt8
  | topic text => Der.Element.encode ⟨Der.utf8String, Utf8.encode text⟩
  | group entries => Der.Element.encode ⟨Der.sequence, encodeAll entries⟩

/-- The encodings of entries one after the other. -/
def encodeAll : List Entry → List UInt8
  | [] => []
  | entry :: entries => entry.encode ++ encodeAll entries

end

mutual

/-- The topics of an entry. -/
def topics : Entry → List String
  | topic text => [text]
  | group entries => topicsOf entries

/-- The topics of entries in order. -/
def topicsOf : List Entry → List String
  | [] => []
  | entry :: entries => entry.topics ++ topicsOf entries

end

theorem encode_group_of_lt {entries : List Entry} (h : (encodeAll entries).length < 128) :
    (group entries).encode =
      containerTag :: UInt8.ofNat (encodeAll entries).length :: encodeAll entries := by
  rw [encode, Der.encode_of_lt h]
  rfl

mutual

/-- A short entry is a run of complete blocks with its topics. -/
theorem exists_blocks : ∀ entry : Entry, entry.encode.length < 128 →
    ∃ blocks, entry.encode = join blocks ∧ textsOf blocks = entry.topics
  | topic text => by
    intro h
    rw [encode] at h ⊢
    have hcontent := Nat.lt_trans (Der.content_length_lt _) h
    refine ⟨[.text (Utf8.encode text) (Nat.lt_trans hcontent (by decide))], ?_, ?_⟩
    · rw [Der.encode_of_lt hcontent, join_cons]
      exact (List.append_nil _).symm
    · show [Utf8.lossy (Utf8.encode text)] = _
      rw [Utf8.lossy_encode, topics]
  | group entries => by
    intro h
    have hcontent : (encodeAll entries).length < 128 := by
      rw [encode] at h
      exact Nat.lt_trans (Der.content_length_lt ⟨Der.sequence, encodeAll entries⟩) h
    obtain ⟨blocks, hbytes, htexts⟩ := exists_blocks_all entries hcontent
    refine ⟨.container (UInt8.ofNat (encodeAll entries).length) :: blocks, ?_, ?_⟩
    · rw [encode_group_of_lt hcontent, join_cons, ← hbytes]
      rfl
    · rw [topics, ← htexts]
      rfl

/-- Short entries are a run of complete blocks with their topics. -/
theorem exists_blocks_all : ∀ entries : List Entry, (encodeAll entries).length < 128 →
    ∃ blocks, encodeAll entries = join blocks ∧ textsOf blocks = topicsOf entries
  | [] => fun _ => ⟨[], rfl, rfl⟩
  | entry :: entries => by
    intro h
    rw [encodeAll, List.length_append] at h
    obtain ⟨blocks, hbytes, htexts⟩ := exists_blocks entry (by omega)
    obtain ⟨others, hothers, hrest⟩ := exists_blocks_all entries (by omega)
    refine ⟨blocks ++ others, ?_, ?_⟩
    · rw [encodeAll, hbytes, hothers, join_append]
    · rw [textsOf_append, htexts, hrest, topicsOf]

end

end Entry

/-! ## Reading -/

open Entry

/-- A list whose content is below 128 bytes is read as its topics, however they are grouped. -/
theorem extract_encode {entries : List Entry} (h : (encodeAll entries).length < 128) :
    extract (group entries).encode = .ok (topicsOf entries) := by
  obtain ⟨blocks, hbytes, htexts⟩ := exists_blocks_all entries h
  have hlist : (group entries).encode =
      join (.container (UInt8.ofNat (encodeAll entries).length) :: blocks) := by
    rw [encode_group_of_lt h, join_cons, ← hbytes]
    rfl
  rw [hlist, extract_join, ← htexts]
  rfl

/-- Of a longer list the first byte of the length proper is taken for a tag. -/
theorem extract_encode_long {entries : List Entry} {first : UInt8}
    (h : 128 ≤ (encodeAll entries).length)
    (hfirst : (Der.digits256 (encodeAll entries).length).head? = some first)
    (hcontainer : first ≠ containerTag) (htext : first ≠ textTag) :
    extract (group entries).encode = .error ⟨first⟩ := by
  obtain ⟨digits, hdigits⟩ := List.head?_eq_some_iff.1 hfirst
  have hsplit : IsSplit (group entries).encode
      [.container (UInt8.ofNat (128 + (first :: digits).length))]
      (first :: (digits ++ encodeAll entries)) := by
    refine ⟨?_, fun block => not_starts_of_unknown hcontainer htext block _⟩
    rw [encode, Der.encode_of_le h, hdigits]
    rfl
  exact (extract_eq_error_iff hsplit first).2 ⟨rfl, hcontainer, htext⟩

/-! ## Certificates -/

/-- Whether an extension carries entries as a topic list whose content is below 128 bytes. -/
structure Carries (e : Extension) (entries : List Entry) : Prop where
  oid_eq : e.oid = Capabilities.topicsOid
  isShort : (encodeAll entries).length < 128
  value_eq : e.value = (group entries).encode

theorem Carries.extract_eq {e : Extension} {entries : List Entry} (h : Carries e entries) :
    extract e.value = .ok (topicsOf entries) := by
  rw [h.value_eq, extract_encode h.isShort]

theorem Carries.isReadable {e : Extension} {entries : List Entry} (h : Carries e entries) :
    e.IsReadable := fun _ => ⟨topicsOf entries, h.extract_eq⟩

theorem Carries.lists {e : Extension} {entries : List Entry} (h : Carries e entries)
    {topic : String} (htopic : topic ∈ topicsOf entries) : e.Lists topic :=
  ⟨h.oid_eq, topicsOf entries, h.extract_eq, htopic⟩

open Capabilities in
/-- A nested topic list whose content is below 128 bytes, so that no length in it takes more than
    one byte, is read as its topics in order. A longer one is refused at the second byte of its
    length, unless that byte looks like a tag. A bundle that is in order but for such short lists
    allows all their topics, and each of them passes as the topic of a project. -/
theorem extract_nested :
    (∀ entries : List Entry, (encodeAll entries).length < 128 →
      extract (group entries).encode = .ok (topicsOf entries)) ∧
    (∀ (entries : List Entry) (first : UInt8), 128 ≤ (encodeAll entries).length →
      (Der.digits256 (encodeAll entries).length).head? = some first →
        first ≠ containerTag → first ≠ textTag →
          extract (group entries).encode = .error ⟨first⟩) ∧
    (∀ (read : List UInt8 → Option Certificate) (blocks : List (Option Pem.Block)),
      none ∉ blocks →
      (∀ b, some b ∈ blocks → b.label = certificateLabel →
        ∃ certificate, read b.bytes = some certificate) →
      (∃ b, some b ∈ blocks ∧ b.label = certificateLabel) →
      (∀ e ∈ extensions read blocks, (∃ entries, Carries e entries) ∨ e.IsReadable) →
        ∃ c, ofBlocks read blocks = .ok c ∧
          ∀ e ∈ extensions read blocks, ∀ entries, Carries e entries →
            ∀ topic ∈ topicsOf entries, c.allowedTopics.contains topic = true ∧
              c.checkTopic (some topic) = .ok ()) := by
  refine ⟨fun _ => extract_encode, fun _ _ => extract_encode_long, ?_⟩
  intro read blocks hnone hcertificates hexists htopics
  have hvalid : IsValid read blocks :=
    ⟨hnone, hcertificates, hexists, fun e he => (htopics e he).elim
      (fun ⟨_, hcarries⟩ => hcarries.isReadable) id⟩
  obtain ⟨c, hc⟩ := exists_ofBlocks_iff.2 hvalid
  have hgathers := (ofBlocks_eq_ok_iff_gathers.1 hc).2
  refine ⟨c, hc, fun e he entries hcarries topic htopic => ?_⟩
  have hcontains : c.allowedTopics.contains topic = true :=
    (hgathers.contains_iff topic).2 ⟨e, he, hcarries.lists htopic⟩
  exact ⟨hcontains, (checkTopic_some_iff c topic).2 (.inr hcontains)⟩

example : extract (group
    [.topic "com.example.communicator", .group [.topic "app"],
      .topic "com.example.communicator.voip", .group [.topic "voip"],
      .topic "com.example.communicator.complication", .group [.topic "complication"]]).encode =
    .ok ["com.example.communicator", "app", "com.example.communicator.voip", "voip",
      "com.example.communicator.complication", "complication"] := by decide +kernel

/-- With an identifier one character longer the content has 130 bytes, and the list is refused. -/
theorem not_extract_nested :
    ¬ ∀ entries : List Entry, extract (group entries).encode = .ok (topicsOf entries) := by
  intro h
  have hrefused : extract (group
      [.topic "com.example.conversations", .group [.topic "app"],
        .topic "com.example.conversations.voip", .group [.topic "voip"],
        .topic "com.example.conversations.complication",
        .group [.topic "complication"]]).encode = .error ⟨0x82⟩ := by decide +kernel
  have hread := hrefused.symm.trans (h _)
  cases hread

end Topics

end Courier
