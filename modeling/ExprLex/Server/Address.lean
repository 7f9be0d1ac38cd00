import ExprLex.Path
import ExprLex.Server.Host
import ExprLex.Text.Utf8

/-!
# Addresses of documents

A client names a document by an address: a scheme, a host and a path, any of which may be missing, and further parts that do
not matter here. A document belongs to the path that its address leads to, so different spellings of one path name one
document.
-/

namespace ExprLex

namespace Server

/-- Why an address leads nowhere. -/
inductive AddressError where
  /-- one of the brackets around the host is missing -/
  | bracketMissing
  /-- the host in brackets announces a kind of address and has not the form of one -/
  | badAnnounced
  | notNumeric (host : Text)
  /-- the host in brackets is a dotted address, which needs no brackets -/
  | needlessBrackets
  /-- the host has a character that is the same as some that separate -/
  | disguisedSeparator (host : Text)
  deriving DecidableEq, Repr

/-- The wording of an error. -/
def AddressError.message : AddressError → String
  | .bracketMissing => "Invalid IPv6 URL"
  | .badAnnounced => "IPvFuture address is invalid"
  | .notNumeric host => host.quoted ++ " does not appear to be an IPv4 or IPv6 address"
  | .needlessBrackets => "An IPv4 address cannot be in brackets"
  | .disguisedSeparator host => "netloc '" ++ host.toString ++ "' contains invalid characters under NFKC normalization"

/-- An address: its scheme, its host, and all that follows them. -/
structure Address where
  scheme : Text
  host : Text
  rest : Text
  deriving DecidableEq, Repr

namespace Address

/-- What of an address counts: control characters and spaces before it do not, nor tabs and line breaks anywhere. -/
def significant (t : Text) : Text :=
  (t.dropWhile fun c => decide (c.toNat ≤ 0x20)).filter fun c => !(c == '\t' || c == '\r' || c == '\n')

/-- A character of a scheme. -/
def isSchemeChar (c : Char) : Bool := isAsciiLetter c || Numeral.isDecimal c || c == '+' || c == '-' || c == '.'

/-- The scheme that a text starts with, in lower case, and what follows it. -/
def cutScheme (t : Text) : Text × Text :=
  match Text.cutAt ':' t with
  | (c :: name, some behind) =>
    if isAsciiLetter c && name.all isSchemeChar then ((c :: name).map Char.toLower, behind) else ([], t)
  | _ => ([], t)

/-- The host that a text starts with behind two slashes, and what follows it. -/
def cutHost : Text → Text × Text
  | '/' :: '/' :: t =>
    let endsHost (c : Char) : Bool := c == '/' || c == '?' || c == '#'
    (t.takeWhile (!endsHost ·), t.dropWhile (!endsHost ·))
  | t => ([], t)

/-- The address that a text spells. -/
def ofText (t : Text) : Address :=
  let (scheme, behindScheme) := cutScheme (significant t)
  let (host, rest) := cutHost behindScheme
  ⟨scheme, host, rest⟩

/-- Characters that are written otherwise but are the same as a slash, a question mark, a number sign, an at sign or a
colon, or hold one. -/
def disguised : List Nat :=
  [0x2047, 0x2048, 0x2049, 0x2100, 0x2101, 0x2105, 0x2106, 0x2A74, 0xFE13, 0xFE16, 0xFE55, 0xFE56, 0xFE5F, 0xFE6B, 0xFF03,
    0xFF0F, 0xFF1A, 0xFF1F, 0xFF20]

/-- Checks what stands between the brackets of a host. -/
def checkNumeric (t : Text) : Except AddressError Unit :=
  if t.head? = some 'v' then
    if Host.isAnnounced t then .ok () else .error .badAnnounced
  else if Host.isDotted t then .error .needlessBrackets
  else if Host.isGrouped t then .ok ()
  else .error (.notNumeric t)

/-- Checks the host of an address. -/
def checkHost (host : Text) : Except AddressError Unit := do
  match host.contains '[', host.contains ']' with
  | false, false => .ok ()
  | true, true => checkNumeric (Text.cutAt ']' ((Text.cutAt '[' host).2.getD [])).1
  | _, _ => .error .bracketMissing
  if host.any fun c => disguised.contains c.toNat then .error (.disguisedSeparator host)

/-- The schemes whose paths may end in parameters. -/
def schemesWithParameters : List String :=
  ["", "ftp", "hdl", "prospero", "http", "imap", "https", "shttp", "rtsp", "rtsps", "rtspu", "sip", "sips", "mms", "sftp",
    "tel"]

/-- A path without the parameters that follow its last name behind a semicolon. -/
def withoutParameters (path : Text) : Text :=
  let last := (path.reverse.takeWhile (· != '/')).reverse
  path.take (path.length - last.length) ++ (Text.cutAt ';' last).1

/-- The path of an address as it is spelled there. -/
def spelledPath (a : Address) : Text :=
  let path := (Text.cutAt '?' (Text.cutAt '#' a.rest).1).1
  if schemesWithParameters.contains a.scheme.toString then withoutParameters path else path

/-- The bytes of a text in which a percent sign and two hexadecimal digits stand for a byte. -/
def percentBytes : Text → List UInt8
  | [] => []
  | '%' :: high :: low :: t =>
    if Numeral.isHex high && Numeral.isHex low then UInt8.ofNat (Numeral.value 16 [high, low]) :: percentBytes t
    else String.utf8EncodeChar '%' ++ percentBytes (high :: low :: t)
  | c :: t => String.utf8EncodeChar c ++ percentBytes t

/-- The text with the bytes that percent signs stand for. -/
def percentDecode (t : Text) : Text := Utf8.decode (percentBytes t)

/-- The path that an address leads to. A host of a file comes before its path, and a letter for a drive comes first. -/
def filePath (a : Address) : Text :=
  let path := percentDecode a.spelledPath
  let host := percentDecode a.host
  if !host.isEmpty && !path.isEmpty && a.scheme == "file".toList then '/' :: '/' :: host ++ path
  else
    match path with
    | '/' :: drive :: ':' :: below => if isAsciiLetter drive then drive.toLower :: ':' :: below else path
    | _ => path

end Address

/-- The path of the document that an address names. -/
def documentPath (uri : String) : Except AddressError Path := do
  let address := Address.ofText uri.toList
  Address.checkHost address.host
  return .ofText address.filePath

end Server

end ExprLex
