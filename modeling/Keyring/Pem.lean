import Keyring.Entry
import Keyring.Text.Base64

/-!
# PEM

Texts in which binary contents stand as Base64 between lines that name what they are. `Block.text`
writes one content; `Reading.ofText` reads all contents of a text up to the first fault. The loaders
pick from the contents what they are after: `certificate`, `certificates` and `privateKey`.
-/

namespace Keyring.Pem

/-- A content with its label. -/
structure Block where
  label : Bytes
  content : Bytes
  deriving DecidableEq, Repr

/-- The labels of contents. -/
inductive Label where
  | certificate
  | publicKey
  /-- A private key in a form of its own for RSA. -/
  | rsaKey
  /-- A private key in PKCS#8 form. -/
  | key
  /-- A private key in a form of its own for elliptic curves. -/
  | ecKey
  | revocationList
  | request
  | echConfig
  deriving DecidableEq, Repr

/-- A label as it is written. -/
def Label.name : Label → String
  | .certificate => "CERTIFICATE"
  | .publicKey => "PUBLIC KEY"
  | .rsaKey => "RSA PRIVATE KEY"
  | .key => "PRIVATE KEY"
  | .ecKey => "EC PRIVATE KEY"
  | .revocationList => "X509 CRL"
  | .request => "CERTIFICATE REQUEST"
  | .echConfig => "ECHCONFIG"

/-- A label as bytes. -/
def Label.bytes (l : Label) : Bytes := Bytes.ofString l.name

/-- The labels whose contents are read. -/
def Label.all : List Label :=
  [.certificate, .publicKey, .rsaKey, .key, .ecKey, .revocationList, .request, .echConfig]

/-! ### Writing -/

/-- The end of a line. -/
inductive LineEnd where
  | crlf
  | lf

/-- A line end as bytes. -/
def LineEnd.bytes : LineEnd → Bytes
  | .crlf => [0x0d, 0x0a]
  | .lf => [0x0a]

/-- What starts the line before a content. -/
def beginMark : Bytes := Bytes.ofString "-----BEGIN "

/-- What starts the line behind a content. -/
def endMark : Bytes := Bytes.ofString "-----END "

/-- What ends both lines. -/
def dashes : Bytes := Bytes.ofString "-----"

/-- The length of a full line. -/
def width : Nat := 64

/-- A block as lines. -/
def Block.bytes (b : Block) (lineEnd : LineEnd) : Bytes :=
  let line (content : Bytes) : Bytes := content ++ lineEnd.bytes
  line (beginMark ++ b.label ++ dashes) ++
    ((Text.Base64.encode b.content).chunks width).flatMap line ++
    line (endMark ++ b.label ++ dashes)

/-- A block as a text. -/
def Block.text (b : Block) (lineEnd : LineEnd) : String :=
  (Bytes.toString? (b.bytes lineEnd)).getD ""

/-- A certificate as a text. -/
def certificateText (der : Bytes) : String := Block.text ⟨Label.certificate.bytes, der⟩ .crlf

/-- The private key of an entry as a text. -/
def keyText (e : KeyEntry) : String := Block.text ⟨Label.key.bytes, e.key⟩ .crlf

/-- The certificates of an entry as a text. -/
def chainText (e : KeyEntry) : String := String.join (e.chain.map certificateText)

/-! ### Reading -/

/-- Why a text cannot be read on. -/
inductive Fault where
  /-- A line starts like the one before a content and goes on otherwise. -/
  | illegalStart (line : Bytes)
  /-- The text ends inside a content. -/
  | missingEnd (label : Bytes)
  | content (error : Text.Base64.Error)
  deriving DecidableEq, Repr

/-- A fault in words. -/
def Fault.text : Fault → String
  | .illegalStart line => "illegal section start: " ++ quoted line
  | .missingEnd label => "section end " ++ quoted label ++ " missing"
  | .content e => e.message
where
  /-- A part of the text, which is text itself. -/
  quoted (bs : Bytes) : String := Text.Quoted.text ((Bytes.toString? bs).getD "")

/-- The contents of a text, and the fault behind them if there is one. -/
structure Reading where
  blocks : List Block
  fault : Option Fault
  deriving DecidableEq, Repr

namespace Reading

/-- Lines with their ends, each of which is one byte. -/
def lines : Bytes → List Bytes
  | [] => []
  | b :: rest =>
    if b = 0x0a ∨ b = 0x0d then [b] :: lines rest
    else
      match lines rest with
      | [] => [[b]]
      | line :: more => (b :: line) :: more

/-- The label of a line that starts with `beginMark`: what stands before the five dashes at its end,
among which there may be blanks and line ends. -/
def label? (line : Bytes) : Option Bytes :=
  let isTail (b : UInt8) : Bool := b == 0x2d || b == 0x20 || b == 0x0a || b == 0x0d
  let tail := line.reverse.takeWhile isTail
  if tail.count 0x2d = 5 then
    let behind := (tail.reverse.dropWhile (· != 0x2d)).length
    some ((line.take (line.length - behind)).drop beginMark.length)
  else none

/-- Reads lines inside a content, whose label is `opened`, or outside of one; the characters of the
content so far are `gathered`. A content that starts inside another one takes over its characters. -/
def ofLines (opened : Option Bytes) (gathered : Bytes) : List Bytes → Reading
  | [] => ⟨[], opened.map .missingEnd⟩
  | line :: rest =>
    if beginMark.isPrefixOf line then
      match label? line with
      | none => ⟨[], some (.illegalStart line)⟩
      | some label => ofLines (some label) gathered rest
    else
      match opened with
      | none => ofLines none gathered rest
      | some label =>
        if (endMark ++ label ++ dashes).isPrefixOf line then
          if Label.all.any (·.bytes == label) then
            match Text.Base64.decode gathered with
            | .error e => ⟨[], some (.content e)⟩
            | .ok content =>
              let ⟨blocks, fault⟩ := ofLines none [] rest
              ⟨⟨label, content⟩ :: blocks, fault⟩
          else ofLines none [] rest
        else ofLines (some label) (gathered ++ line) rest

/-- The contents of a text. -/
def ofText (text : String) : Reading := ofLines none [] (lines (Bytes.ofString text))

/-- The error over a fault. -/
def failed (fault : Fault) : Error := .pem ("Failed to read PEM: " ++ fault.text)

/-- The error if nothing was found: the fault, or what is missing. -/
def absent (r : Reading) (missing : String) : Error :=
  match r.fault with
  | some fault => failed fault
  | none => .pem missing

end Reading

/-! ### Loading -/

/-- The first certificate of a text. -/
def certificate (text : String) : Except Error Bytes :=
  let r := Reading.ofText text
  match r.blocks.find? (·.label == Label.certificate.bytes) with
  | some b => .ok b.content
  | none => .error (r.absent "PEM does not contain a certificate")

/-- The certificates of a text, at least one. -/
def certificates (text : String) : Except Error (List Bytes) :=
  let r := Reading.ofText text
  match r.fault, r.blocks.filter (·.label == Label.certificate.bytes) with
  | none, b :: rest => .ok ((b :: rest).map Block.content)
  | _, _ => .error (r.absent "No certificates found in PEM")

/-- The first private key of a text, which has to be in PKCS#8 form. -/
def privateKey (text : String) : Except Error Bytes :=
  let r := Reading.ofText text
  let isKey (b : Block) : Bool :=
    [Label.key, Label.rsaKey, Label.ecKey].any fun (l : Label) => b.label == l.bytes
  match r.blocks.find? isKey with
  | some b =>
    if b.label = Label.key.bytes then .ok b.content
    else .error (.pem "Only PKCS#8 private keys are supported")
  | none => .error (r.absent "PEM does not contain a private key")

/-- The entry of a text with a private key and a text with its certificates. -/
def keyEntry (keyText chainText : String) : Except Error KeyEntry := do
  let key ← privateKey keyText
  KeyEntry.of key (← certificates chainText)

/-- The entry of the first certificate of a text. -/
def trustedEntry (text : String) : Except Error TrustedEntry := do
  TrustedEntry.of (← certificate text)

end Keyring.Pem
