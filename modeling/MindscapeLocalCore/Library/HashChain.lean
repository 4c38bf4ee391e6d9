import Mathlib.Algebra.Group.Nat.Defs
import Mathlib.Data.List.Range

/-!
Chains of entries in which every entry is numbered one after its predecessor
and names its predecessor's hash.
-/

namespace MindscapeLocalCore.Library.HashChain

variable {ε η : Type}

structure Links (ε η : Type) where
  sequence : ε → Nat
  previous : ε → Option η
  hash : ε → η

variable (links : Links ε η)

/-- The hash that the next entry has to name. -/
def tip (start : Option η) (entries : List ε) : Option η :=
  (entries.getLast?.map links.hash).or start

/-- The entries are numbered from `n + 1` and linked from `start`. -/
def Linked : Option η → Nat → List ε → Prop
  | _, _, [] => True
  | start, n, entry :: rest =>
      links.sequence entry = n + 1 ∧ links.previous entry = start ∧
        Linked (some (links.hash entry)) (n + 1) rest

@[simp] theorem tip_nil (start : Option η) : tip links start [] = start := by
  simp [tip]

@[simp] theorem tip_append_singleton (start : Option η) (entries : List ε)
    (entry : ε) :
    tip links start (entries ++ [entry]) = some (links.hash entry) := by
  simp [tip]

theorem tip_cons (start : Option η) (entry : ε) (rest : List ε) :
    tip links start (entry :: rest) =
      tip links (some (links.hash entry)) rest := by
  cases rest with
  | nil => simp [tip]
  | cons next rest => simp [tip, List.getLast?_cons]

theorem linked_append_singleton (start : Option η) (n : Nat)
    (entries : List ε) (entry : ε) :
    Linked links start n (entries ++ [entry]) ↔
      Linked links start n entries ∧
        links.sequence entry = n + entries.length + 1 ∧
        links.previous entry = tip links start entries := by
  induction entries generalizing start n with
  | nil => simp [Linked]
  | cons first rest ih =>
      simp only [List.cons_append, Linked, ih, tip_cons, List.length_cons]
      constructor
      · rintro ⟨hseq, hprev, hrest, hnum, hlink⟩
        exact ⟨⟨hseq, hprev, hrest⟩, by omega, hlink⟩
      · rintro ⟨⟨hseq, hprev, hrest⟩, hnum, hlink⟩
        exact ⟨hseq, hprev, hrest, by omega, hlink⟩

theorem map_sequence_of_linked {start : Option η} {n : Nat} {entries : List ε}
    (h : Linked links start n entries) :
    entries.map links.sequence = List.range' (n + 1) entries.length := by
  induction entries generalizing start n with
  | nil => rfl
  | cons entry rest ih =>
      obtain ⟨hseq, -, hrest⟩ := h
      rw [List.map_cons, List.length_cons, List.range'_succ, hseq, ih hrest]

end MindscapeLocalCore.Library.HashChain

/-!
SHA-256 on byte strings.
-/

namespace MindscapeLocalCore.Library.Sha256

abbrev Word := BitVec 32

def roundConstants : List Word := [
  0x428a2f98#32, 0x71374491#32, 0xb5c0fbcf#32, 0xe9b5dba5#32,
  0x3956c25b#32, 0x59f111f1#32, 0x923f82a4#32, 0xab1c5ed5#32,
  0xd807aa98#32, 0x12835b01#32, 0x243185be#32, 0x550c7dc3#32,
  0x72be5d74#32, 0x80deb1fe#32, 0x9bdc06a7#32, 0xc19bf174#32,
  0xe49b69c1#32, 0xefbe4786#32, 0x0fc19dc6#32, 0x240ca1cc#32,
  0x2de92c6f#32, 0x4a7484aa#32, 0x5cb0a9dc#32, 0x76f988da#32,
  0x983e5152#32, 0xa831c66d#32, 0xb00327c8#32, 0xbf597fc7#32,
  0xc6e00bf3#32, 0xd5a79147#32, 0x06ca6351#32, 0x14292967#32,
  0x27b70a85#32, 0x2e1b2138#32, 0x4d2c6dfc#32, 0x53380d13#32,
  0x650a7354#32, 0x766a0abb#32, 0x81c2c92e#32, 0x92722c85#32,
  0xa2bfe8a1#32, 0xa81a664b#32, 0xc24b8b70#32, 0xc76c51a3#32,
  0xd192e819#32, 0xd6990624#32, 0xf40e3585#32, 0x106aa070#32,
  0x19a4c116#32, 0x1e376c08#32, 0x2748774c#32, 0x34b0bcb5#32,
  0x391c0cb3#32, 0x4ed8aa4a#32, 0x5b9cca4f#32, 0x682e6ff3#32,
  0x748f82ee#32, 0x78a5636f#32, 0x84c87814#32, 0x8cc70208#32,
  0x90befffa#32, 0xa4506ceb#32, 0xbef9a3f7#32, 0xc67178f2#32]

structure Chaining where
  a : Word
  b : Word
  c : Word
  d : Word
  e : Word
  f : Word
  g : Word
  h : Word

def initial : Chaining where
  a := 0x6a09e667#32
  b := 0xbb67ae85#32
  c := 0x3c6ef372#32
  d := 0xa54ff53a#32
  e := 0x510e527f#32
  f := 0x9b05688c#32
  g := 0x1f83d9ab#32
  h := 0x5be0cd19#32

def round (s : Chaining) (constant word : Word) : Chaining :=
  let sum₁ := s.e.rotateRight 6 ^^^ s.e.rotateRight 11 ^^^ s.e.rotateRight 25
  let choice := (s.e &&& s.f) ^^^ (~~~s.e &&& s.g)
  let first := s.h + sum₁ + choice + constant + word
  let sum₀ := s.a.rotateRight 2 ^^^ s.a.rotateRight 13 ^^^ s.a.rotateRight 22
  let majority := (s.a &&& s.b) ^^^ (s.a &&& s.c) ^^^ (s.b &&& s.c)
  { a := first + (sum₀ + majority)
    b := s.a
    c := s.b
    d := s.c
    e := s.d + first
    f := s.e
    g := s.f
    h := s.g }

def nextWord (window : List Word) : Word :=
  let second := window.getD 14 0
  let fifteenth := window.getD 1 0
  let small₁ := second.rotateRight 17 ^^^ second.rotateRight 19 ^^^ (second >>> 10)
  let small₀ := fifteenth.rotateRight 7 ^^^ fifteenth.rotateRight 18 ^^^ (fifteenth >>> 3)
  small₁ + window.getD 9 0 + small₀ + window.getD 0 0

def rounds : List Word → List Word → Chaining → Chaining
  | constant :: constants, word :: window, s =>
      rounds constants (window ++ [nextWord (word :: window)]) (round s constant word)
  | _, _, s => s

def compress (s : Chaining) (block : List Word) : Chaining :=
  let t := rounds roundConstants block s
  { a := s.a + t.a
    b := s.b + t.b
    c := s.c + t.c
    d := s.d + t.d
    e := s.e + t.e
    f := s.f + t.f
    g := s.g + t.g
    h := s.h + t.h }

/-- The last `count` bytes of a number, most significant first. -/
def bigEndian : Nat → Nat → List UInt8
  | 0, _ => []
  | count + 1, n => UInt8.ofNat (n / 256 ^ count % 256) :: bigEndian count n

def padded (message : List UInt8) : List UInt8 :=
  message ++ 0x80 :: List.replicate ((119 - message.length % 64) % 64) 0 ++
    bigEndian 8 (8 * message.length)

def word (bytes : List UInt8) : Word :=
  BitVec.ofNat 32 (bytes.foldl (fun n byte => 256 * n + byte.toNat) 0)

/-- Compress `count` blocks of sixteen words. -/
def absorb : Nat → List UInt8 → Chaining → Chaining
  | 0, _, s => s
  | count + 1, bytes, s =>
      let block := (List.range 16).map fun i => word ((bytes.drop (4 * i)).take 4)
      absorb count (bytes.drop 64) (compress s block)

def digest (s : Chaining) : BitVec 256 :=
  s.a ++ s.b ++ s.c ++ s.d ++ s.e ++ s.f ++ s.g ++ s.h

def sha256 (message : ByteArray) : BitVec 256 :=
  let bytes := padded message.toList
  digest (absorb (bytes.length / 64) bytes initial)

theorem toList_loop (bytes : ByteArray) (i : ℕ) (done : List UInt8) :
    ByteArray.toList.loop bytes i done = done.reverse ++ bytes.data.toList.drop i := by
  fun_induction ByteArray.toList.loop bytes i done with
  | case1 i done h ih =>
      have hi : i < bytes.data.toList.length := h
      have hget : bytes.get! i = bytes.data.toList[i] := by
        rw [ByteArray.get!, getElem!_pos bytes.data i h, Array.getElem_toList]
      rw [ih, List.drop_eq_getElem_cons hi, List.reverse_cons, List.append_assoc, hget]
      rfl
  | case2 i done h => rw [List.drop_eq_nil_of_le (Nat.le_of_not_lt h), List.append_nil]

/-- The digest, from the bytes of the array as a list, which the kernel reads in one pass. -/
theorem sha256_eq (message : ByteArray) :
    sha256 message = digest (absorb ((padded message.data.toList).length / 64)
      (padded message.data.toList) initial) := by
  rw [sha256, ByteArray.toList, toList_loop]
  rfl

example : digest (absorb 1 (padded [0x61, 0x62, 0x63]) initial) =
    0xba7816bf8f01cfea414140de5dae2223b00361a396177a9cb410ff61f20015ad#256 := by
  decide +kernel

end MindscapeLocalCore.Library.Sha256
