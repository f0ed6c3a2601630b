/-!
Bytes as text over 64 characters, three bytes to four characters, padded at the end.
-/

namespace DesktopAgent.Text.Base64

def symbol (bits : Nat) : Char :=
  if bits < 26 then Char.ofNat (65 + bits)
  else if bits < 52 then Char.ofNat (97 + (bits - 26))
  else if bits < 62 then Char.ofNat (48 + (bits - 52))
  else if bits = 62 then '+'
  else '/'

/-- Three bytes at a time; one or two bytes at the end are padded. -/
def symbols : List UInt8 → List Char
  | a :: b :: c :: rest =>
      let bits := a.toNat * 65536 + b.toNat * 256 + c.toNat
      symbol (bits / 262144) :: symbol (bits / 4096 % 64) :: symbol (bits / 64 % 64) ::
        symbol (bits % 64) :: symbols rest
  | [a, b] =>
      let bits := a.toNat * 256 + b.toNat
      [symbol (bits / 1024), symbol (bits / 16 % 64), symbol (bits % 16 * 4), '=']
  | [a] => [symbol (a.toNat / 4), symbol (a.toNat % 4 * 16), '=', '=']
  | [] => []

def encode (bytes : List UInt8) : String :=
  String.ofList (symbols bytes)

end DesktopAgent.Text.Base64
