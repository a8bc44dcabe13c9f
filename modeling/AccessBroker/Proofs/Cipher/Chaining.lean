/-
Messages read back from what they were encrypted to.

`unpad?_eq_some_iff`: among bytes that are full blocks, those that a message
was filled up to are the only ones that give that message. With the inverse of
each block (`decrypt_encrypt`) a message is read back under the initial block
it was encrypted with (`decrypt?_encrypt`), and nothing else gives that message
(`decrypt?_eq_some_iff`). Nothing ties it to that block:
under another one the difference of the two appears in the first sixteen bytes
of what is read, and nowhere else (`decrypt?_encrypt_other`). The same holds of
what is left after blocks were cut off the end (`decrypt?_prefix`) or the front
(`exists_decrypt?_drop`), the last block cut off the front being the initial
block of the rest.
-/
import AccessBroker.Cipher.Chaining
import AccessBroker.Proofs.Cipher.Aes

namespace AccessBroker.Cipher

open Aes (Block Schedule)

/-! ## Blocks and bytes -/

theorem length_bytes (x : Block) : x.bytes.length = 16 := rfl

@[simp] theorem bytesOf_cons (x : Block) (xs : List Block) :
    bytesOf (x :: xs) = x.bytes ++ bytesOf xs := List.flatMap_cons

theorem ofBytes?_bytes_append (x : Block) (rest : List UInt8) :
    Block.ofBytes? (x.bytes ++ rest) = (Block.ofBytes? rest).map (x :: ·) := rfl

theorem ofBytes?_bytesOf : ∀ (xs : List Block), Block.ofBytes? (bytesOf xs) = some xs
  | [] => rfl
  | x :: xs => by
    rw [bytesOf_cons, ofBytes?_bytes_append, ofBytes?_bytesOf xs, Option.map_some]

theorem exists_bytes_eq {front : List UInt8} (h : front.length = 16) :
    ∃ x : Block, front = x.bytes :=
  match front, h with
  | [b0, b1, b2, b3, b4, b5, b6, b7, b8, b9, b10, b11, b12, b13, b14, b15], _ =>
    ⟨⟨⟨b0, b1, b2, b3⟩, ⟨b4, b5, b6, b7⟩, ⟨b8, b9, b10, b11⟩, ⟨b12, b13, b14, b15⟩⟩, rfl⟩

/-- Bytes are those of some blocks if sixteen goes into their number. -/
theorem exists_bytesOf_eq : ∀ {n : Nat} {bytes : List UInt8}, bytes.length = 16 * n →
    ∃ xs : List Block, xs.length = n ∧ bytes = bytesOf xs
  | 0, bytes, h => ⟨[], rfl, List.length_eq_zero_iff.mp h⟩
  | n + 1, bytes, h => by
    obtain ⟨x, hx⟩ := exists_bytes_eq (show (bytes.take 16).length = 16 by
      rw [List.length_take]
      omega)
    obtain ⟨xs, hlength, hxs⟩ := exists_bytesOf_eq (show (bytes.drop 16).length = 16 * n by
      rw [List.length_drop]
      omega)
    refine ⟨x :: xs, by rw [List.length_cons, hlength], ?_⟩
    rw [bytesOf_cons, ← hx, ← hxs, List.take_append_drop]

theorem initial?_bytes (x : Block) : initial? x.bytes = some x := rfl

theorem bytes_injective {x y : Block} (h : x.bytes = y.bytes) : x = y := by
  have hx := initial?_bytes x
  rw [h, initial?_bytes, Option.some.injEq] at hx
  exact hx.symm

/-! ## Padding -/

theorem length_pad (m : List UInt8) : (pad m).length = 16 * (m.length / 16 + 1) := by
  simp only [pad, List.length_append, List.length_replicate]
  omega

theorem toNat_count (m : List UInt8) :
    (UInt8.ofNat (16 - m.length % 16)).toNat = 16 - m.length % 16 := by
  rw [UInt8.toNat_ofNat']
  exact Nat.mod_eq_of_lt (by omega)

theorem unpad?_pad (m : List UInt8) : unpad? (pad m) = some m := by
  have hcount := toNat_count m
  have hlast : (pad m).getLast? = some (UInt8.ofNat (16 - m.length % 16)) := by
    simp only [pad, List.getLast?_append, List.getLast?_replicate]
    rw [if_neg (by omega)]
    rfl
  have hlength : (pad m).length - (16 - m.length % 16) = m.length := by
    simp [pad]
  simp only [unpad?, hlast, hcount, hlength]
  rw [if_pos]
  · simp [pad]
  · refine ⟨by omega, by omega, by simp [pad], ?_⟩
    simp [pad]

/-- Full blocks give a message only if they are that message filled up. -/
theorem unpad?_eq_some_iff {n : Nat} {bytes m : List UInt8} (hbytes : bytes.length = 16 * n) :
    unpad? bytes = some m ↔ bytes = pad m := by
  constructor
  · intro h
    rw [unpad?] at h
    cases hlast : bytes.getLast? with
    | none => simp [hlast] at h
    | some b =>
      simp only [hlast, Option.ite_none_right_eq_some, Option.some.injEq, List.all_eq_true,
        decide_eq_true_eq] at h
      obtain ⟨⟨hpos, hle, hfits, hall⟩, rfl⟩ := h
      have hdrop : bytes.drop (bytes.length - b.toNat) = List.replicate b.toNat b := by
        rw [List.eq_replicate_iff]
        refine ⟨?_, hall⟩
        rw [List.length_drop]
        omega
      have hcount : 16 - (bytes.take (bytes.length - b.toNat)).length % 16 = b.toNat := by
        rw [List.length_take]
        omega
      rw [pad, hcount, UInt8.ofNat_toNat, ← hdrop, List.take_append_drop]
  · rintro rfl
    exact unpad?_pad m

/-! ## Chaining -/

theorem decryptBlocks_encryptBlocks (k : Schedule) : ∀ (before : Block) (xs : List Block),
    decryptBlocks k before (encryptBlocks k before xs) = xs
  | _, [] => rfl
  | before, x :: xs => by
    simp only [encryptBlocks, decryptBlocks, Aes.decrypt_encrypt, Aes.Block.xor_xor,
      decryptBlocks_encryptBlocks k _ xs]

/-- Another initial block changes the first block alone. -/
theorem decryptBlocks_other (k : Schedule) (before other x : Block) (xs : List Block) :
    decryptBlocks k other (encryptBlocks k before (x :: xs)) = x.xor (before.xor other) :: xs := by
  simp only [encryptBlocks, decryptBlocks, Aes.decrypt_encrypt, decryptBlocks_encryptBlocks,
    Aes.Block.xor_assoc]

/-- Bytes with those of a block added to the first sixteen. -/
def addToFront (d : Block) (bytes : List UInt8) : List UInt8 :=
  List.zipWith (· ^^^ ·) (bytes.take 16) d.bytes ++ bytes.drop 16

theorem bytes_xor (x y : Block) :
    (x.xor y).bytes = List.zipWith (· ^^^ ·) x.bytes y.bytes := rfl

theorem length_addToFront (d : Block) (bytes : List UInt8) :
    (addToFront d bytes).length = bytes.length := by
  simp only [addToFront, List.length_append, List.length_zipWith, List.length_take,
    List.length_drop, length_bytes]
  omega

/-- Two blocks agree as far as adding their difference leaves the bytes at the front alone. -/
theorem take_eq_of_addToFront {x y : Block} {front a b : List UInt8}
    (h : front ++ b = addToFront (x.xor y) (front ++ a)) :
    y.bytes.take front.length = x.bytes.take front.length := by
  refine List.ext_getElem (by simp [length_bytes]) fun i hi _ => ?_
  rw [List.length_take, length_bytes] at hi
  have hfront : i < front.length := by omega
  have hx : i < x.bytes.length := by rw [length_bytes]; omega
  have hy : i < y.bytes.length := by rw [length_bytes]; omega
  have htake : (List.take 16 (front ++ a))[i]? = some front[i] := by
    rw [List.getElem?_take_of_lt (by omega), List.getElem?_append_left hfront,
      List.getElem?_eq_getElem hfront]
  have hbyte := congrArg (fun bytes => bytes[i]?) h
  simp only [addToFront, bytes_xor] at hbyte
  rw [List.getElem?_append_left hfront, List.getElem?_append_left (by simp [length_bytes]; omega),
    List.getElem?_zipWith, htake, List.getElem?_zipWith, List.getElem?_eq_getElem hfront,
    List.getElem?_eq_getElem hx, List.getElem?_eq_getElem hy, Option.some.injEq] at hbyte
  have hzero := (UInt8.xor_right_inj front[i]).mp (hbyte.symm.trans UInt8.xor_zero.symm)
  rw [List.getElem_take, List.getElem_take]
  exact (UInt8.xor_eq_zero_iff.mp hzero).symm

/-- Only the same block leaves the bytes at the front alone altogether. -/
theorem eq_of_addToFront {x y : Block} {bytes : List UInt8} (hlength : 16 ≤ bytes.length)
    (h : bytes = addToFront (x.xor y) bytes) : y = x := by
  have htake : y.bytes.take bytes.length = x.bytes.take bytes.length :=
    take_eq_of_addToFront (by rwa [List.append_nil])
  rw [List.take_of_length_le hlength, List.take_of_length_le hlength] at htake
  exact bytes_injective htake

theorem exists_bytesOf_eq_pad (m : List UInt8) :
    ∃ x xs, pad m = bytesOf (x :: xs) := by
  obtain ⟨xs, hlength, hxs⟩ := exists_bytesOf_eq (length_pad m)
  cases xs with
  | nil => cases hlength
  | cons x xs => exact ⟨x, xs, hxs⟩

theorem encrypt_of_pad_eq {m : List UInt8} {xs : List Block} (h : pad m = bytesOf xs)
    (k : Schedule) (initial : Block) :
    encrypt k initial m = bytesOf (encryptBlocks k initial xs) := by
  rw [encrypt, h, ofBytes?_bytesOf, Option.getD_some]

theorem decrypt?_bytesOf (k : Schedule) (initial : Block) (ys : List Block) :
    decrypt? k initial (bytesOf ys) = unpad? (bytesOf (decryptBlocks k initial ys)) := by
  rw [decrypt?, ofBytes?_bytesOf]
  rfl

/-- Another initial block adds the difference of the two to the first sixteen bytes. -/
theorem bytesOf_decryptBlocks_other (k : Schedule) (before other : Block) (xs : List Block) :
    bytesOf (decryptBlocks k other (encryptBlocks k before xs)) =
      addToFront (before.xor other) (bytesOf xs) := by
  cases xs with
  | nil => rfl
  | cons x xs =>
    rw [decryptBlocks_other, addToFront, bytesOf_cons, bytesOf_cons, bytes_xor x,
      List.take_left' (length_bytes x), List.drop_left' (length_bytes x)]

/-- **What another initial block reads.** The message filled up, with the difference of the two
initial blocks added to its first sixteen bytes. -/
theorem decrypt?_encrypt_other (k : Schedule) (initial other : Block) (m : List UInt8) :
    decrypt? k other (encrypt k initial m) =
      unpad? (addToFront (initial.xor other) (pad m)) := by
  obtain ⟨x, xs, hpad⟩ := exists_bytesOf_eq_pad m
  rw [encrypt_of_pad_eq hpad, decrypt?_bytesOf, bytesOf_decryptBlocks_other, hpad]

/-- **A message is read back.** For every stretched key, initial block and message. -/
theorem decrypt?_encrypt (k : Schedule) (initial : Block) (m : List UInt8) :
    decrypt? k initial (encrypt k initial m) = some m := by
  obtain ⟨x, xs, hpad⟩ := exists_bytesOf_eq_pad m
  rw [encrypt_of_pad_eq hpad, decrypt?_bytesOf, decryptBlocks_encryptBlocks, ← hpad, unpad?_pad]

/-! ## Parts of what was encrypted -/

theorem eq_bytesOf_of_ofBytes? : ∀ {bytes : List UInt8} {xs : List Block},
    Block.ofBytes? bytes = some xs → bytes = bytesOf xs := by
  intro bytes
  fun_induction Block.ofBytes? bytes with
  | case1 =>
    intro xs h
    cases h
    rfl
  | case2 b0 b1 b2 b3 b4 b5 b6 b7 b8 b9 b10 b11 b12 b13 b14 b15 rest ih =>
    intro xs h
    obtain ⟨ys, hys, rfl⟩ := Option.map_eq_some_iff.mp h
    rw [bytesOf_cons, ← ih hys]
    rfl
  | case3 =>
    intro xs h
    cases h

theorem eq_bytes_of_initial? {bytes : List UInt8} {x : Block} (h : initial? bytes = some x) :
    bytes = x.bytes := by
  rw [initial?] at h
  split at h
  · next y hy =>
    cases h
    have hbytes := eq_bytesOf_of_ofBytes? hy
    rwa [bytesOf_cons, bytesOf, List.flatMap_nil, List.append_nil] at hbytes
  · cases h

theorem length_bytesOf : ∀ xs : List Block, (bytesOf xs).length = 16 * xs.length
  | [] => rfl
  | x :: xs => by
    rw [bytesOf_cons, List.length_append, length_bytes, length_bytesOf xs, List.length_cons]
    omega

theorem take_bytesOf : ∀ (n : Nat) (xs : List Block),
    (bytesOf xs).take (16 * n) = bytesOf (xs.take n)
  | 0, _ => rfl
  | n + 1, [] => List.take_nil
  | n + 1, x :: xs => by
    rw [bytesOf_cons, show 16 * (n + 1) = x.bytes.length + 16 * n by rw [length_bytes]; omega,
      List.take_length_add_append, take_bytesOf n xs, List.take_succ_cons, bytesOf_cons]

theorem drop_bytesOf : ∀ (n : Nat) (xs : List Block),
    (bytesOf xs).drop (16 * n) = bytesOf (xs.drop n)
  | 0, _ => rfl
  | n + 1, [] => List.drop_nil
  | n + 1, x :: xs => by
    rw [bytesOf_cons, show 16 * (n + 1) = x.bytes.length + 16 * n by rw [length_bytes]; omega,
      List.drop_length_add_append, drop_bytesOf n xs, List.drop_succ_cons]

theorem length_encryptBlocks (k : Schedule) : ∀ (before : Block) (xs : List Block),
    (encryptBlocks k before xs).length = xs.length
  | _, [] => rfl
  | before, x :: xs => by
    rw [encryptBlocks, List.length_cons, length_encryptBlocks k _ xs, List.length_cons]

theorem take_encryptBlocks (k : Schedule) : ∀ (n : Nat) (before : Block) (xs : List Block),
    (encryptBlocks k before xs).take n = encryptBlocks k before (xs.take n)
  | 0, _, _ => rfl
  | n + 1, _, [] => rfl
  | n + 1, before, x :: xs => by
    rw [encryptBlocks, List.take_succ_cons, take_encryptBlocks k n _ xs, List.take_succ_cons,
      encryptBlocks]

/-- The blocks behind a block are encrypted as if it were their initial block. -/
theorem exists_drop_encryptBlocks (k : Schedule) : ∀ {n : Nat} (before : Block) {xs : List Block},
    n < xs.length → ∃ y, (encryptBlocks k before xs).drop n =
      y :: encryptBlocks k y (xs.drop (n + 1))
  | 0, before, x :: xs, _ => ⟨Aes.encrypt k (x.xor before), rfl⟩
  | n + 1, before, x :: xs, h => by
    obtain ⟨y, hy⟩ := exists_drop_encryptBlocks k (Aes.encrypt k (x.xor before))
      (Nat.lt_of_succ_lt_succ h)
    exact ⟨y, hy⟩

theorem length_encrypt (k : Schedule) (initial : Block) (m : List UInt8) :
    (encrypt k initial m).length = (pad m).length := by
  obtain ⟨x, xs, hpad⟩ := exists_bytesOf_eq_pad m
  rw [encrypt_of_pad_eq hpad, length_bytesOf, length_encryptBlocks, hpad, length_bytesOf]

/-- **The front of what was encrypted** reads as the front of the message filled up, under another
initial block with the difference of the two added; and only full blocks are read. -/
theorem decrypt?_prefix {k : Schedule} {initial other : Block} {m bytes p : List UInt8}
    (hfront : bytes <+: encrypt k initial m) (h : decrypt? k other bytes = some p) :
    16 ∣ bytes.length ∧
      unpad? (addToFront (initial.xor other) ((pad m).take bytes.length)) = some p := by
  obtain ⟨x, xs, hpad⟩ := exists_bytesOf_eq_pad m
  obtain ⟨ys, hys, hplain⟩ := Option.bind_eq_some_iff.mp h
  obtain rfl := eq_bytesOf_of_ofBytes? hys
  rw [List.prefix_iff_eq_take, encrypt_of_pad_eq hpad, length_bytesOf, take_bytesOf,
    take_encryptBlocks] at hfront
  have hdecrypt := ofBytes?_bytesOf ys
  rw [hfront, ofBytes?_bytesOf, Option.some.injEq] at hdecrypt
  rw [← hdecrypt, bytesOf_decryptBlocks_other] at hplain
  rw [length_bytesOf, hpad, take_bytesOf]
  exact ⟨Nat.dvd_mul_right 16 _, hplain⟩

/-- **The end of what was encrypted** reads as the end of the message filled up, with the difference
of the last block dropped and the initial block added to the front. -/
theorem exists_decrypt?_drop (k : Schedule) (initial : Block) (m : List UInt8) {n : Nat}
    (hpos : 0 < n) (hn : 16 * n < (encrypt k initial m).length) :
    ∃ y : Block, y.bytes = ((encrypt k initial m).drop (16 * (n - 1))).take 16 ∧
      ∀ other, decrypt? k other ((encrypt k initial m).drop (16 * n)) =
        unpad? (addToFront (y.xor other) ((pad m).drop (16 * n))) := by
  obtain ⟨x, xs, hpad⟩ := exists_bytesOf_eq_pad m
  rw [length_encrypt, hpad, length_bytesOf] at hn
  have hlast : n - 1 < (x :: xs).length := by omega
  obtain ⟨y, hy⟩ := exists_drop_encryptBlocks k initial hlast
  have hrest : (encryptBlocks k initial (x :: xs)).drop n =
      encryptBlocks k y ((x :: xs).drop n) := by
    have hdrop := congrArg (List.drop 1) hy
    rwa [List.drop_drop, List.drop_succ_cons, List.drop_zero, Nat.sub_add_cancel hpos] at hdrop
  refine ⟨y, ?_, fun other => ?_⟩
  · rw [encrypt_of_pad_eq hpad, drop_bytesOf, hy, bytesOf_cons, List.take_left' (length_bytes y)]
  · rw [encrypt_of_pad_eq hpad, drop_bytesOf, decrypt?_bytesOf, hrest, bytesOf_decryptBlocks_other,
      hpad, drop_bytesOf]

/-! ## What gives a message -/

theorem encryptBlocks_decryptBlocks (k : Schedule) : ∀ (before : Block) (ys : List Block),
    encryptBlocks k before (decryptBlocks k before ys) = ys
  | _, [] => rfl
  | before, y :: ys => by
    simp only [encryptBlocks, decryptBlocks, Aes.Block.xor_xor, Aes.encrypt_decrypt,
      encryptBlocks_decryptBlocks k _ ys]

/-- **What gives a message is what it is encrypted to**, and nothing else. -/
theorem decrypt?_eq_some_iff {k : Schedule} {initial : Block} {bytes m : List UInt8} :
    decrypt? k initial bytes = some m ↔ bytes = encrypt k initial m := by
  constructor
  · intro h
    obtain ⟨ys, hys, hplain⟩ := Option.bind_eq_some_iff.mp h
    obtain rfl := eq_bytesOf_of_ofBytes? hys
    have hpad := (unpad?_eq_some_iff (length_bytesOf _)).mp hplain
    rw [encrypt_of_pad_eq hpad.symm, encryptBlocks_decryptBlocks]
  · rintro rfl
    exact decrypt?_encrypt k initial m

/-! ## Padding of what remains -/

theorem length_lt_of_unpad? {bytes m : List UInt8} (h : unpad? bytes = some m) :
    m.length < bytes.length := by
  rw [unpad?] at h
  split at h
  · cases h
  · rw [Option.ite_none_right_eq_some, Option.some.injEq] at h
    obtain ⟨⟨hpos, -, hfits, -⟩, rfl⟩ := h
    rw [List.length_take]
    omega

/-- No padding ends in a byte past sixteen. -/
theorem unpad?_eq_none {bytes : List UInt8} {b : UInt8} (hlast : bytes.getLast? = some b)
    (hb : 16 < b.toNat) : unpad? bytes = none := by
  rw [unpad?, hlast]
  exact if_neg fun h => absurd h.2.1 (by omega)

theorem drop_pad {m : List UInt8} {n : Nat} (h : 16 * n ≤ m.length) :
    (pad m).drop (16 * n) = pad (m.drop (16 * n)) := by
  have hcount : 16 - (m.drop (16 * n)).length % 16 = 16 - m.length % 16 := by
    rw [List.length_drop]
    omega
  rw [pad, pad, List.drop_append_of_le_length h, hcount]

theorem addToFront_pad (d : Block) {m : List UInt8} (h : 16 ≤ m.length) :
    addToFront d (pad m) = pad (addToFront d m) := by
  have hcount : (addToFront d m).length = m.length := length_addToFront d m
  rw [pad, pad, hcount, addToFront, addToFront, List.take_append_of_le_length h,
    List.drop_append_of_le_length h, List.append_assoc]

theorem unpad?_addToFront_pad (d : Block) {m : List UInt8} (h : 16 ≤ m.length) :
    unpad? (addToFront d (pad m)) = some (addToFront d m) := by
  rw [addToFront_pad d h, unpad?_pad]

/-- The first sixteen bytes are some block's, whatever is added to them. -/
theorem exists_addToFront_eq (d : Block) {bytes : List UInt8} (h : 16 ≤ bytes.length) :
    ∃ front, front.length = 16 ∧ addToFront d bytes = front ++ bytes.drop 16 := by
  refine ⟨List.zipWith (· ^^^ ·) (bytes.take 16) d.bytes, ?_, rfl⟩
  rw [List.length_zipWith, List.length_take, length_bytes]
  omega

end AccessBroker.Cipher
