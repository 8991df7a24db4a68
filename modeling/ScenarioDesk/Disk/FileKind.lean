import ScenarioDesk.Disk.Path
import ScenarioDesk.Runtime
import ScenarioDesk.Text.Case

/-!
Which files are plain text, by their names alone. The type of a name comes from its extension, after
an extension for compression has been cut off; a name of unknown type is plain text only if it has
no suffix. The library takes the name for an address, so a scheme in front of it is cut off first, by a
rule that has changed from one release to another.
-/

namespace ScenarioDesk.FileKind

/-- What a name says about the type of a file. -/
inductive Kind where
  | plainText
  | other
  | unknown
  deriving DecidableEq, Repr

/-- Extensions of plain text. -/
def plainExtensions : List Text :=
  [".bat", ".c", ".h", ".ksh", ".pl", ".srt", ".txt", ".feature", ".story"]

/-- Extensions of every other known type. -/
def otherExtensions : List Text := List.map Text.ofString [
  ".3g2", ".3gp", ".3gpp", ".3gpp2", ".a", ".aac", ".adts", ".ai", ".aif", ".aifc", ".aiff",
  ".ass", ".au", ".avi", ".avif", ".bcpio", ".bin", ".bmp", ".cdf", ".cpio", ".csh", ".css",
  ".csv", ".dll", ".doc", ".dot", ".dvi", ".eml", ".eps", ".etx", ".exe", ".gif", ".gtar", ".h5",
  ".hdf", ".heic", ".heif", ".htm", ".html", ".ico", ".ief", ".jpe", ".jpeg", ".jpg", ".js",
  ".json", ".latex", ".loas", ".m1v", ".m3u", ".m3u8", ".man", ".me", ".mht", ".mhtml", ".mif",
  ".mjs", ".mov", ".movie", ".mp2", ".mp3", ".mp4", ".mpa", ".mpe", ".mpeg", ".mpg", ".ms", ".n3",
  ".nc", ".nq", ".nt", ".nws", ".o", ".obj", ".oda", ".opus", ".p12", ".p7c", ".pbm", ".pdf",
  ".pfx", ".pgm", ".png", ".pnm", ".pot", ".ppa", ".ppm", ".pps", ".ppt", ".ps", ".pwz", ".py",
  ".pyc", ".pyo", ".qt", ".ra", ".ram", ".ras", ".rdf", ".rgb", ".roff", ".rtx", ".sgm", ".sgml",
  ".sh", ".shar", ".snd", ".so", ".src", ".sv4cpio", ".sv4crc", ".svg", ".swf", ".t", ".tar",
  ".tcl", ".tex", ".texi", ".texinfo", ".tif", ".tiff", ".tr", ".trig", ".tsv", ".ustar", ".vcf",
  ".vtt", ".wasm", ".wav", ".webm", ".webmanifest", ".wiz", ".wsdl", ".xbm", ".xlb", ".xls",
  ".xml", ".xpdl", ".xpm", ".xsl", ".xwd", ".zip"]

/-- Extensions that stand for two: that of an archive or drawing and that of its compression. -/
def combinedExtensions : List (Text × Text) := [
  (".svgz", ".svg.gz"), (".tgz", ".tar.gz"), (".taz", ".tar.gz"), (".tz", ".tar.gz"),
  (".tbz2", ".tar.bz2"), (".txz", ".tar.xz")]

/-- Extensions of compressed files, in exactly this spelling. -/
def compressionExtensions : List Text := [".gz", ".Z", ".bz2", ".xz", ".br"]

/-- A name cut before its last dot. Dots that only dots stand before do not count. -/
def splitExtension (name : Text) : Text × Text :=
  let ending := Text.afterLast '.' name
  let stem := name.take (name.length - ending.length - 1)
  if ending.length < name.length ∧ stem.any (· ≠ .char '.') then (stem, '.' :: ending)
  else (name, [])

/-- The text in front of the first colon and the text behind it. -/
def cutAtColon? (name : Text) : Option (Text × Text) :=
  match name.dropWhile (· ≠ .char ':') with
  | _ :: rest => some (name.takeWhile (· ≠ .char ':'), rest)
  | [] => none

/-- What is read of an address: no controls or blanks in front, and no tabs or line ends at all. -/
def cleaned (name : Text) : Text :=
  (name.dropWhile fun c => c.number ≤ 0x20).filter fun c =>
    !([CodePoint.char '\t', '\n', '\r'].contains c)

/-- The code point is a letter of ASCII. -/
def isLetter (c : CodePoint) : Bool :=
  ('a'.toNat ≤ c.number && c.number ≤ 'z'.toNat) || ('A'.toNat ≤ c.number && c.number ≤ 'Z'.toNat)

/-- The text is spelled as a scheme. One letter alone is none, since it may name a drive. -/
def isScheme (text : Text) : Bool :=
  1 < text.length && text.head?.any isLetter &&
    text.all fun c => isLetter c || c.isDigit || [CodePoint.char '+', '-', '.'].contains c

/-- The schemes of addresses whose paths end with parameters. -/
def parameterSchemes : List Text := [
  "ftp", "hdl", "prospero", "http", "imap", "https", "shttp", "rtsp", "rtsps", "rtspu", "sip", "sips",
  "mms", "sftp", "tel"]

/-- The characters that the path of an address ends at. -/
def pathEnds (scheme : Text) : List CodePoint :=
  if parameterSchemes.contains scheme then ['#', '?', ';'] else ['#', '?']

/-- The scheme of a name in lower case and what it is the scheme of. -/
def scheme? (rule : SchemeRule) (name : Text) : Option (Text × Text) :=
  match rule with
  | .lenient => do
    let (scheme, rest) ← cutAtColon? name
    if scheme = [] then none else some (Text.lower scheme, rest)
  | .strict => do
    let (scheme, rest) ← cutAtColon? (cleaned name)
    if isScheme scheme then
      let scheme := Text.lower scheme
      some (scheme, rest.takeWhile fun c => !(pathEnds scheme).contains c)
    else none

/-- The kind of inline data, whose type is written before its first comma, up to a semicolon. -/
def ofInlineData (data : Text) : Kind :=
  if data.contains ',' then
    let type := (data.takeWhile (· ≠ .char ',')).takeWhile (· ≠ .char ';')
    if type.contains '=' ∨ ¬ type.contains '/' ∨ type = ("text/plain" : Text) then .plainText
    else .other
  else .unknown

/-- The kind of an extension, whatever its case. -/
def ofExtension (extension : Text) : Kind :=
  let extension := Text.lower extension
  if plainExtensions.contains extension then .plainText
  else if otherExtensions.contains extension then .other
  else .unknown

/-- The kind of a name by its extension. -/
def ofPlainName (name : Text) : Kind :=
  let (stem, extension) := splitExtension name
  let (stem, extension) := match combinedExtensions.lookup (Text.lower extension) with
    | some both => splitExtension (stem ++ both)
    | none => (stem, extension)
  if compressionExtensions.contains extension then ofExtension (splitExtension stem).2
  else ofExtension extension

/-- The kind of the file with a name. -/
def ofName (rule : SchemeRule) (name : Text) : Kind :=
  match scheme? rule name with
  | some (scheme, rest) => if scheme = ("data" : Text) then ofInlineData rest else ofPlainName rest
  | none => ofPlainName name

/-- The file at a path may be imported as text. -/
def isPlainText [Runtime] (path : Path) : Bool :=
  match ofName Runtime.schemeRule path.name with
  | .plainText => true
  | .other => false
  | .unknown => Path.suffixOf path.name = []

end ScenarioDesk.FileKind
