namespace ScanWatch.Text.Base64

def alphabet : List Char :=
  "ABCDEFGHIJKLMNOPQRSTUVWXYZabcdefghijklmnopqrstuvwxyz0123456789+/".toList

def digit (bits : Nat) : Char :=
  (alphabet[bits % 64]?).getD '='

/-- Three bytes make four characters; what is missing at the end is filled up. -/
def encode : List UInt8 → List Char
  | first :: second :: third :: rest =>
    let bits := (first.toNat * 256 + second.toNat) * 256 + third.toNat
    digit (bits / 262144) :: digit (bits / 4096) :: digit (bits / 64) :: digit bits :: encode rest
  | [first, second] =>
    let bits := (first.toNat * 256 + second.toNat) * 256
    [digit (bits / 262144), digit (bits / 4096), digit (bits / 64), '=']
  | [first] =>
    let bits := first.toNat * 65536
    [digit (bits / 262144), digit (bits / 4096), '=', '=']
  | [] => []

end ScanWatch.Text.Base64
