import KedaHttp.Foundation.GoStrings

/-!
# The addresses of peers

The texts that Go's package `net` makes of addresses: `IP.String`, `IPAddr.String` and
`JoinHostPort`. An HTTP server tells a handler about the peer of a connection in the form of
`TCPAddr.String`, which is `JoinHostPort` of the address with its zone and of the port.
-/

namespace KedaHttp.Foundation

/-- The text of a number, as package `strconv` writes it. -/
def formatUint (base n : ℕ) : String := String.ofList (Nat.toDigits base n)

/-- An address of 4 or 16 bytes. -/
structure IP where
  bytes : List UInt8
  sized : bytes.length = 4 ∨ bytes.length = 16
  deriving DecidableEq, Repr

namespace IP

/-- What an IPv4 address starts with in its form of 16 bytes. -/
def v4InV6 : List UInt8 := [0, 0, 0, 0, 0, 0, 0, 0, 0, 0, 0xff, 0xff]

def to4 (ip : IP) : Option (List UInt8) :=
  if ip.bytes.length = 4 then some ip.bytes
  else if ip.bytes.take 12 = v4InV6 then some (ip.bytes.drop 12)
  else none

/-- The groups of 16 bits that an IPv6 address is written in. -/
def groups : List UInt8 → List ℕ
  | high :: low :: rest => (high.toNat * 256 + low.toNat) :: groups rest
  | _ => []

/--
The longest run of zeros, by where it starts and how long it is. The first one is taken of several
equally long ones. The loop of the source goes on behind a run that it has found, where a shorter
part of the run would not have counted anyway.
-/
def longestRun (groups : List ℕ) : ℕ × ℕ :=
  (List.range groups.length).foldl
    (fun run start =>
      let zeros := ((groups.drop start).takeWhile (· = 0)).length
      if run.2 < zeros then (start, zeros) else run)
    (0, 0)

/-- Groups with colons in between, and a double colon in the place of a run of zeros. -/
def colonHex (groups : List ℕ) : String :=
  let run := longestRun groups
  if run.2 ≤ 1 then ":".intercalate (groups.map (formatUint 16))
  else ":".intercalate ((groups.take run.1).map (formatUint 16)) ++ ("::" ++
    ":".intercalate ((groups.drop (run.1 + run.2)).map (formatUint 16)))

/-- `IP.String`. -/
def string (ip : IP) : String :=
  match ip.to4 with
  | some bytes => ".".intercalate (bytes.map fun byte => formatUint 10 byte.toNat)
  | none => colonHex (groups ip.bytes)

theorem two_le_length_groups {bytes : List UInt8} (sized : 4 ≤ bytes.length) :
    2 ≤ (groups bytes).length := by
  match bytes, sized with
  | _ :: _ :: _ :: _ :: rest, _ => simp [groups]

theorem not_freeOf_colonHex {groups : List ℕ} (several : 2 ≤ groups.length) :
    ¬FreeOf ':' (colonHex groups) := by
  simp only [colonHex]
  split
  · apply not_freeOf_intercalate (by decide)
    rw [List.length_map]
    exact several
  · rw [freeOf_append, freeOf_append]
    exact fun free => absurd free.2.1 (by decide)

theorem freeOf_formatUint_ten (n : ℕ) : FreeOf ':' (formatUint 10 n) := by
  rw [formatUint, FreeOf, String.toList_ofList]
  intro member
  exact absurd (Nat.isDigit_of_mem_toDigits (by decide) (by decide) member) (by decide)

/-- The addresses that are written without colons are the IPv4 addresses. -/
theorem freeOf_string_iff (ip : IP) : FreeOf ':' ip.string ↔ ip.to4.isSome := by
  cases short : ip.to4 with
  | some bytes =>
      simp only [string, short, Option.isSome_some, iff_true]
      apply freeOf_intercalate (by decide)
      intro piece member
      rcases List.mem_map.mp member with ⟨byte, _, rfl⟩
      exact freeOf_formatUint_ten byte.toNat
  | none =>
      simp only [string, short, Option.isSome_none, Bool.false_eq_true, iff_false]
      apply not_freeOf_colonHex
      apply two_le_length_groups
      rcases ip.sized with sized | sized <;> omega

example : string ⟨[10, 0, 0, 1], by decide⟩ = "10.0.0.1" := by decide

example : string ⟨[0x20, 0x01, 0x0d, 0xb8, 0, 0, 0, 1, 0, 0, 0, 0, 0, 0, 0, 0x2a], by decide⟩ =
    "2001:db8:0:1::2a" := by decide

end IP

/-- An address with its zone, which is empty for most addresses. -/
structure IPAddr where
  ip : IP
  zone : String
  deriving DecidableEq, Repr

namespace IPAddr

/-- `IPAddr.String`. -/
def string (addr : IPAddr) : String :=
  if addr.zone = "" then addr.ip.string else addr.ip.string ++ ("%" ++ addr.zone)

theorem freeOf_string_iff (addr : IPAddr) :
    FreeOf ':' addr.string ↔ addr.ip.to4.isSome ∧ FreeOf ':' addr.zone := by
  rw [← addr.ip.freeOf_string_iff, string]
  split
  · next unzoned =>
      rw [unzoned]
      exact ⟨fun free => ⟨free, by decide⟩, fun free => free.1⟩
  · rw [freeOf_append, freeOf_append]
    exact ⟨fun free => ⟨free.1, free.2.2⟩, fun free => ⟨free.1, by decide, free.2⟩⟩

end IPAddr

section HostPort

/-- `JoinHostPort`, which puts a host with colons into brackets. -/
def joinHostPort (host port : String) : String :=
  if FreeOf ':' host then host ++ (":" ++ port) else "[" ++ (host ++ ("]:" ++ port))

variable {host : String}

theorem beforeFirst_joinHostPort (free : FreeOf ':' host) (port : String) :
    beforeFirst ':' (joinHostPort host port) = host := by
  rw [joinHostPort, if_pos free]
  exact beforeFirst_append free (by decide) port

theorem beforeFirst_joinHostPort_bracketed (colons : ¬FreeOf ':' host) (port : String) :
    beforeFirst ':' (joinHostPort host port) = "[" ++ beforeFirst ':' host := by
  have single : ":".toList = [':'] := by decide
  rw [joinHostPort, if_neg colons]
  rcases exists_eq_append single colons with ⟨left, right, free, rfl⟩
  have bracketFree : FreeOf ':' ("[" ++ left) := freeOf_append.mpr ⟨by decide, free⟩
  rw [beforeFirst_append free single]
  calc beforeFirst ':' ("[" ++ (left ++ (":" ++ right) ++ ("]:" ++ port)))
      = beforeFirst ':' ("[" ++ left ++ (":" ++ (right ++ ("]:" ++ port)))) := by
        simp only [String.append_assoc]
    _ = "[" ++ left := beforeFirst_append bracketFree single _

/-- To cut at the first colon undoes `JoinHostPort` for the hosts without colons only. -/
theorem beforeFirst_joinHostPort_eq_iff (port : String) :
    beforeFirst ':' (joinHostPort host port) = host ↔ FreeOf ':' host := by
  constructor
  · intro same
    rw [← same]
    exact freeOf_beforeFirst ':' _
  · intro free
    exact beforeFirst_joinHostPort free port

theorem joinHostPort_ne_empty (host port : String) : joinHostPort host port ≠ "" := by
  rw [joinHostPort]
  split
  · intro empty
    have chars := congrArg String.toList empty
    simp at chars
  · intro empty
    have chars := congrArg String.toList empty
    simp at chars

end HostPort

end KedaHttp.Foundation
