import TokenForest.Files.Path
import TokenForest.Text.Hex
import TokenForest.Text.Utf8

/-!
# File URIs

The path that a `file` URI names: what stands after the host, if there is one, and before a query or
a fragment, with the percent escapes taken as UTF-8.  Every other URI names no path.
-/

namespace TokenForest.Path

/-- The bytes that a text with percent escapes stands for. -/
def unescape : List Char → List UInt8
  | '%' :: high :: low :: rest =>
    match Text.Hex.value? high, Text.Hex.value? low with
    | some upper, some lower => UInt8.ofNat (16 * upper + lower) :: unescape rest
    | _, _ => Text.Utf8.encode ['%'] ++ unescape (high :: low :: rest)
  | character :: rest => Text.Utf8.encode [character] ++ unescape rest
  | [] => []

/-- The text after the scheme of a `file` URI. -/
def afterScheme? : List Char → Option (List Char)
  | 'f' :: 'i' :: 'l' :: 'e' :: ':' :: rest => some rest
  | _ => none

/-- The host and what follows it, if two slashes announce a host. -/
def splitHost : List Char → List Char × List Char
  | '/' :: '/' :: rest => (rest.takeWhile (· ≠ '/'), rest.dropWhile (· ≠ '/'))
  | rest => ([], rest)

/-- The path that a URI names; a host that is given stands in front of the names. -/
def ofUri? (uri : String) : Option Path :=
  match afterScheme? uri.toList with
  | none => none
  | some written =>
    let place := written.takeWhile fun character => character ≠ '?' ∧ character ≠ '#'
    let (host, rest) := splitHost place
    if rest.isEmpty then none
    else
      let shown := if host.isEmpty then rest else '/' :: host ++ rest
      some (ofString (String.ofList (Text.Utf8.decodeLenient (unescape shown))))

end TokenForest.Path
