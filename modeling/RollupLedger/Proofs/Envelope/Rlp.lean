import RollupLedger.Envelope.Rlp
import RollupLedger.Proofs.Bytes.BigEndian
import Mathlib.Logic.Function.Basic

/-!
# Items end where their encoding says

The first byte of an encoding tells a byte that stands for itself from a string and from a list, and
with the bytes of the length after it where the content ends. So two items whose encodings begin the
same bytes are one item, and what follows them is the same (`Rlp.encode_append_inj`). The length of
an item has to fit eight bytes, since there is no first byte for more.
-/

set_option autoImplicit false
set_option relaxedAutoImplicit false

namespace RollupLedger.Envelope.Rlp

/-! ### Headers -/

/-- What a header adds to its base. -/
def lead (length : Nat) : Nat := if length < 56 then length else 55 + (Bytes.ofNat length).length

/-- The bytes of a header after the first. -/
def trail (length : Nat) : Bytes := if length < 56 then [] else Bytes.ofNat length

theorem header_eq (base length : Nat) :
    header base length = UInt8.ofNat (base + lead length) :: trail length := by
  unfold header lead trail
  split
  · rfl
  · simp only [Nat.add_assoc]

theorem lead_lt {length : Nat} (hfits : length < 2 ^ 64) : lead length < 64 := by
  unfold lead
  split
  · omega
  · have hsize : (Bytes.ofNat length).length ≤ 8 := Bytes.length_ofNat_le hfits
    omega

/-- A header that begins alike is one header, since a long length has at least one byte of its
own. -/
theorem lead_trail_inj {m n : Nat} {x y : Bytes} (hlead : lead m = lead n)
    (htrail : trail m ++ x = trail n ++ y) : m = n ∧ x = y := by
  have hlong {length : Nat} (hlength : ¬ length < 56) : 0 < (Bytes.ofNat length).length :=
    Bytes.length_ofNat_pos (by omega)
  unfold lead at hlead
  unfold trail at htrail
  by_cases hm : m < 56 <;> by_cases hn : n < 56 <;>
    simp only [hm, hn, if_true, if_false] at hlead htrail
  · exact ⟨hlead, htrail⟩
  · have hpos := hlong hn
    omega
  · have hpos := hlong hm
    omega
  · obtain ⟨hsize, hrest⟩ := List.append_inj htrail (by omega)
    exact ⟨Bytes.ofNat_injective hsize, hrest⟩

/-! ### Contents behind a header -/

/-- A content after the header for its length. -/
def framed (base : Nat) (content : Bytes) : Bytes := header base content.length ++ content

/-- The bases of strings and of lists. -/
def IsBase (base : Nat) : Prop := base = 128 ∨ base = 192

section Framed

variable {base base' : Nat} {content content' x y : Bytes}

theorem framed_eq (base : Nat) (content : Bytes) :
    framed base content =
      UInt8.ofNat (base + lead content.length) :: (trail content.length ++ content) := by
  rw [framed, header_eq, List.cons_append]

theorem length_le_framed (base : Nat) (content : Bytes) :
    content.length ≤ (framed base content).length := by
  rw [framed, List.length_append]
  exact Nat.le_add_left _ _

theorem toNat_lead (hbase : IsBase base) (hfits : content.length < 2 ^ 64) :
    (UInt8.ofNat (base + lead content.length)).toNat = base + lead content.length := by
  have hlead := lead_lt hfits
  have hbyte : base + lead content.length < 256 := by
    rcases hbase with rfl | rfl <;> omega
  exact UInt8.toNat_ofNat_of_lt hbyte

theorem framed_append_inj (hbase : IsBase base) (hbase' : IsBase base')
    (hfits : content.length < 2 ^ 64) (hfits' : content'.length < 2 ^ 64)
    (happend : framed base content ++ x = framed base' content' ++ y) :
    base = base' ∧ content = content' ∧ x = y := by
  rw [framed_eq, framed_eq, List.cons_append, List.cons_append, List.append_assoc,
    List.append_assoc, List.cons.injEq] at happend
  obtain ⟨hfirst, hrest⟩ := happend
  have hsum := congrArg UInt8.toNat hfirst
  rw [toNat_lead hbase hfits, toNat_lead hbase' hfits'] at hsum
  have hlead := lead_lt hfits
  have hlead' := lead_lt hfits'
  -- The bases are further apart than anything that is added to them.
  have hsame : base = base' := by
    rcases hbase with rfl | rfl <;> rcases hbase' with rfl | rfl <;> omega
  obtain ⟨hlength, hcontents⟩ := lead_trail_inj (by omega) hrest
  obtain ⟨hcontent, hafter⟩ := List.append_inj hcontents hlength
  exact ⟨hsame, hcontent, hafter⟩

theorem exists_framed_eq_cons (hbase : IsBase base) (hfits : content.length < 2 ^ 64) :
    ∃ first rest, framed base content = first :: rest ∧ base ≤ first.toNat := by
  refine ⟨_, _, framed_eq base content, ?_⟩
  rw [toNat_lead hbase hfits]
  exact Nat.le_add_right _ _

end Framed

/-! ### Strings -/

section Strings

variable {content content' x y : Bytes}

/-- A single small byte stands for itself, and every other string has a header. -/
theorem encodeBytes_cases (content : Bytes) :
    (∃ b : UInt8, b.toNat < 128 ∧ content = [b] ∧ encodeBytes content = [b]) ∨
      encodeBytes content = framed 128 content := by
  match content with
  | [] => exact Or.inr rfl
  | [b] =>
    by_cases hb : b.toNat < 128
    · exact Or.inl ⟨b, hb, rfl, if_pos hb⟩
    · exact Or.inr (if_neg hb)
  | _ :: _ :: _ => exact Or.inr rfl

theorem length_le_encodeBytes (content : Bytes) :
    content.length ≤ (encodeBytes content).length := by
  rcases encodeBytes_cases content with ⟨b, -, hcontent, hencode⟩ | hencode
  · exact Nat.le_of_eq (congrArg List.length (hcontent.trans hencode.symm))
  · rw [hencode]
    exact length_le_framed 128 content

theorem encodeBytes_append_inj (hfits : (encodeBytes content).length < 2 ^ 64)
    (hfits' : (encodeBytes content').length < 2 ^ 64)
    (happend : encodeBytes content ++ x = encodeBytes content' ++ y) :
    content = content' ∧ x = y := by
  have hlength := Nat.lt_of_le_of_lt (length_le_encodeBytes content) hfits
  have hlength' := Nat.lt_of_le_of_lt (length_le_encodeBytes content') hfits'
  -- A string with a header does not begin with a small byte.
  have happart {c z z' : Bytes} {b : UInt8} (hc : c.length < 2 ^ 64) (hb : b.toNat < 128)
      (hbegin : [b] ++ z = framed 128 c ++ z') : False := by
    obtain ⟨first, rest, hframed, hfirst⟩ := exists_framed_eq_cons (Or.inl rfl) hc
    rw [hframed, List.cons_append, List.cons_append, List.cons.injEq] at hbegin
    rw [hbegin.1] at hb
    omega
  rcases encodeBytes_cases content with ⟨b, hb, hcontent, hencode⟩ | hencode <;>
    rcases encodeBytes_cases content' with ⟨b', hb', hcontent', hencode'⟩ | hencode' <;>
    rw [hencode, hencode'] at happend
  · obtain ⟨hsame, hafter⟩ := List.append_inj happend rfl
    exact ⟨by rw [hcontent, hcontent', hsame], hafter⟩
  · exact absurd happend (happart hlength' hb)
  · exact absurd happend.symm (happart hlength hb')
  · exact (framed_append_inj (Or.inl rfl) (Or.inl rfl) hlength hlength' happend).2

end Strings

/-! ### Items -/

theorem encode_list (items : List Rlp) : (list items).encode = framed 192 (encodeAll items) := rfl

theorem length_encodeAll_le (items : List Rlp) :
    (encodeAll items).length ≤ (list items).encode.length :=
  length_le_framed 192 (encodeAll items)

/-- The encoding of a list begins with a byte that no other encoding begins with. -/
theorem exists_encode_list_eq_cons {items : List Rlp}
    (hfits : (list items).encode.length < 2 ^ 64) :
    ∃ first rest, (list items).encode = first :: rest ∧ 192 ≤ first.toNat :=
  exists_framed_eq_cons (Or.inr rfl) (Nat.lt_of_le_of_lt (length_encodeAll_le items) hfits)

theorem encodeBytes_append_ne_list {content x y : Bytes} {items : List Rlp}
    (hfits : (encodeBytes content).length < 2 ^ 64)
    (hlist : (list items).encode.length < 2 ^ 64) :
    encodeBytes content ++ x ≠ (list items).encode ++ y := by
  intro happend
  rcases encodeBytes_cases content with ⟨b, hb, -, hencode⟩ | hencode
  · obtain ⟨first, rest, hitems, hfirst⟩ := exists_encode_list_eq_cons hlist
    rw [hencode, hitems, List.cons_append, List.cons_append, List.cons.injEq] at happend
    rw [happend.1] at hb
    omega
  · rw [hencode, encode_list] at happend
    have hbase := (framed_append_inj (Or.inl rfl) (Or.inr rfl)
      (Nat.lt_of_le_of_lt (length_le_encodeBytes content) hfits)
      (Nat.lt_of_le_of_lt (length_encodeAll_le items) hlist) happend).1
    cases hbase

theorem encode_ne_nil (item : Rlp) : item.encode ≠ [] := by
  cases item with
  | bytes content =>
    rw [encode]
    rcases encodeBytes_cases content with ⟨b, -, -, hencode⟩ | hencode
    · simp [hencode]
    · simp [hencode, framed_eq]
  | list items => simp [encode_list, framed_eq]

mutual

/-- The bytes that an item is encoded in and those that follow it are told apart. -/
theorem encode_append_inj : ∀ (a b : Rlp) {x y : Bytes}, a.encode.length < 2 ^ 64 →
    b.encode.length < 2 ^ 64 → a.encode ++ x = b.encode ++ y → a = b ∧ x = y
  | bytes content, bytes content', _, _, hfits, hfits', happend => by
    obtain ⟨hcontent, hafter⟩ := encodeBytes_append_inj hfits hfits' happend
    exact ⟨congrArg bytes hcontent, hafter⟩
  | bytes _, list _, _, _, hfits, hfits', happend =>
    absurd happend (encodeBytes_append_ne_list hfits hfits')
  | list _, bytes _, _, _, hfits, hfits', happend =>
    absurd happend.symm (encodeBytes_append_ne_list hfits' hfits)
  | list items, list items', _, _, hfits, hfits', happend => by
    have hall := Nat.lt_of_le_of_lt (length_encodeAll_le items) hfits
    have hall' := Nat.lt_of_le_of_lt (length_encodeAll_le items') hfits'
    obtain ⟨-, hitems, hafter⟩ :=
      framed_append_inj (Or.inr rfl) (Or.inr rfl) hall hall' happend
    exact ⟨congrArg list (encodeAll_inj items items' hall hitems), hafter⟩

/-- Items one after the other are told apart, since none of them is without bytes. -/
theorem encodeAll_inj : ∀ items items' : List Rlp, (encodeAll items).length < 2 ^ 64 →
    encodeAll items = encodeAll items' → items = items'
  | [], [], _, _ => rfl
  | [], b :: _, _, hall => absurd (List.append_eq_nil_iff.mp hall.symm).1 (encode_ne_nil b)
  | a :: _, [], _, hall => absurd (List.append_eq_nil_iff.mp hall).1 (encode_ne_nil a)
  | a :: rest, b :: rest', hfits, hall => by
    have hfits' : (encodeAll (b :: rest')).length < 2 ^ 64 := hall ▸ hfits
    rw [encodeAll, List.length_append] at hfits hfits'
    obtain ⟨hfirst, hrest⟩ := encode_append_inj a b (by omega) (by omega) hall
    rw [hfirst, encodeAll_inj rest rest' (by omega) hrest]

end

/-- A string of `2 ^ 64` bytes would begin as the empty list does. -/
example : (header 128 (2 ^ 64)).head? = (list []).encode.head? := by decide +kernel

end RollupLedger.Envelope.Rlp
