import RealmKeeper.Http.Header

/-!
# Basic credentials

User name and password as the value of a header field, in base 64.
-/

namespace RealmKeeper.Http

open RealmKeeper.Text

/-- The character of a number below 64. -/
def base64Char (n : Nat) : Char :=
  if n < 26 then Char.ofNat (0x41 + n)
  else if n < 52 then Char.ofNat (0x47 + n)
  else if n < 62 then Char.ofNat (n - 4)
  else if n = 62 then '+' else '/'

/-- **Octets in base 64**: each three as four characters, filled up with equals signs. -/
def base64 : List UInt8 → List Char
  | [] => []
  | [a] => [base64Char (a.toNat / 4), base64Char (a.toNat % 4 * 16), '=', '=']
  | [a, b] =>
    [base64Char (a.toNat / 4), base64Char (a.toNat % 4 * 16 + b.toNat / 16),
      base64Char (b.toNat % 16 * 4), '=']
  | a :: b :: c :: rest =>
    base64Char (a.toNat / 4) :: base64Char (a.toNat % 4 * 16 + b.toNat / 16) ::
      base64Char (b.toNat % 16 * 4 + c.toNat / 64) :: base64Char (c.toNat % 64) :: base64 rest

/-- **The credential of a user name and a password.** -/
def basicCredential (username password : List UInt8) : HeaderValue :=
  ((HeaderValue.ofOctets? (Utf8.bytes "Basic " ++
    Utf8.encode (base64 (username ++ Utf8.bytes ":" ++ password))))).getD ⟨[], rfl⟩

end RealmKeeper.Http
