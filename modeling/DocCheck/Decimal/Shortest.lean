set_option autoImplicit false

namespace DocCheck.Decimal

/-- The positive number `mantissa * 2 ^ exponent`. -/
structure Binary where
  mantissa : Nat
  exponent : Int
  /-- The neighbour below is half as far away as the one above. -/
  narrowBelow : Bool
  deriving DecidableEq, Repr

/-- The number that the lower 63 bits of a double stand for. -/
def Binary.ofBits (bits : UInt64) : Binary :=
  let fraction := bits.toNat % Nat.pow 2 52
  let biased := bits.toNat / Nat.pow 2 52 % Nat.pow 2 11
  if biased = 0 then
    ⟨fraction, -1074, false⟩
  else
    ⟨Nat.pow 2 52 + fraction, Int.ofNat biased - 1075, fraction = 0 && 1 < biased⟩

namespace Binary

/-- `digits * 10 ^ place` and `quarters * 2 ^ exponent / 4`, over one denominator. -/
def scaled (value : Binary) (digits : Nat) (place : Int) (quarters : Nat) : Nat × Nat :=
  let binary := value.exponent - 2
  (digits * Nat.pow 10 place.toNat * Nat.pow 2 (-binary).toNat,
    quarters * Nat.pow 2 binary.toNat * Nat.pow 10 (-place).toNat)

/-- Whether `digits * 10 ^ place` reads back as `value`. -/
def readsBack (value : Binary) (digits : Nat) (place : Int) : Bool :=
  let low := scaled value digits place (4 * value.mantissa - if value.narrowBelow then 1 else 2)
  let high := scaled value digits place (4 * value.mantissa + 2)
  if value.mantissa % 2 = 0 then low.2 ≤ low.1 && high.1 ≤ high.2
  else low.2 < low.1 && high.1 < high.2

/-- The greatest `digits` with `digits * 10 ^ place ≤ value`. -/
def floorAt (value : Binary) (place : Int) : Nat :=
  let (unit, whole) := scaled value 1 place (4 * value.mantissa)
  whole / unit

/-- The neighbour of `value` on the grid of `10 ^ place` that reads back; the nearer of two. -/
def candidate? (value : Binary) (place : Int) : Option (Nat × Int) :=
  let below := value.floorAt place
  match value.readsBack below place, value.readsBack (below + 1) place with
  | true, true =>
    let (sum, twice) := scaled value (2 * below + 1) place (8 * value.mantissa)
    some (if twice < sum ∨ (twice = sum ∧ below % 2 = 0) then below else below + 1, place)
  | true, false => some (below, place)
  | false, true => some (below + 1, place)
  | false, false => none

/-- The least `k` with `value < 10 ^ k`, for a positive double. -/
def scale (value : Binary) : Int :=
  let places := (List.range 640).map fun n => Int.ofNat n - 330
  (places.find? fun k => value.floorAt k = 0).getD 310

/-- Digits and place of the shortest decimal that reads back. -/
def shortest (value : Binary) : Nat × Int :=
  let k := value.scale
  ((List.range 17).findSome? fun n => value.candidate? (k - 1 - Int.ofNat n)).getD
    (value.floorAt (k - 17), k - 17)

end Binary

def stripZeros (fuel digits : Nat) (place : Int) : Nat × Int :=
  match fuel with
  | 0 => (digits, place)
  | fuel + 1 =>
    if digits % 10 = 0 ∧ digits ≠ 0 then stripZeros fuel (digits / 10) (place + 1)
    else (digits, place)

/-- Writes `digits * 10 ^ place`: positionally from `1e-5` on and below `1e16`, with `.0` when it is
whole, otherwise with a signed exponent. -/
def layout (digits : Nat) (place : Int) : String :=
  let shown := (toString digits).toList
  let point := Int.ofNat shown.length + place
  let text :=
    if 0 ≤ place ∧ point ≤ 16 then
      shown ++ List.replicate place.toNat '0' ++ ['.', '0']
    else if 0 < point ∧ point ≤ 16 then
      shown.take point.toNat ++ '.' :: shown.drop point.toNat
    else if -5 < point ∧ point ≤ 0 then
      '0' :: '.' :: List.replicate (-point).toNat '0' ++ shown
    else
      let exponent := point - 1
      let fraction := shown.drop 1
      shown.take 1 ++ (if fraction = [] then [] else '.' :: fraction) ++
        'e' :: (if exponent < 0 then '-' else '+') :: (toString exponent.natAbs).toList
  String.ofList text

/-- The text of a finite double. -/
def ofFloat (x : Float) : String :=
  let bits := x.toBits
  let negative := Nat.pow 2 63 ≤ bits.toNat
  let value := Binary.ofBits bits
  let text :=
    if value.mantissa = 0 then "0.0"
    else
      let (digits, place) := value.shortest
      let (digits, place) := stripZeros 20 digits place
      layout digits place
  if negative then "-" ++ text else text

end DocCheck.Decimal
