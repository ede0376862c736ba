import ByteMachine.Fault
/- What the tool set's package says about itself, and how each field of it
   is printed on request.

   A text field prints as itself, or as `None` when it is missing. The name
   and version fall back to `UNKNOWN` and `0.0.0` when missing or empty,
   and the full name joins them with a hyphen. The contact is the
   maintainer if there is one, else the author, and so for its address.
   Keywords print on one line separated by commas; classifiers and the
   provided, required and obsoleted modules print one per line; a missing
   list of these prints as an empty one. The platforms print like the
   keywords, but a missing list of platforms cannot be printed at all. -/
namespace ByteMachine.Package

/-- The metadata of a package; a field that was never given is `none`. -/
structure Metadata where
  name : Option String := none
  version : Option String := none
  author : Option String := none
  authorEmail : Option String := none
  maintainer : Option String := none
  maintainerEmail : Option String := none
  url : Option String := none
  license : Option String := none
  description : Option String := none
  longDescription : Option String := none
  keywords : Option (List String) := none
  platforms : Option (List String) := none
  classifiers : Option (List String) := none
  provides : Option (List String) := none
  requires : Option (List String) := none
  obsoletes : Option (List String) := none
  deriving Repr, DecidableEq

/-- The package of the tool set. -/
def toolPackage : Metadata :=
  { name := some "eight-bit-computer",
    version := some "0.0.2",
    author := some "Andy Palmer",
    authorEmail := some "contactninezerozeronine@gmail.com",
    description := some "Tools to build a physical eight bit computer.",
    url := some "https://github.com/ninezerozeronine/eight-bit-computer" }

/-- A field of the metadata that can be printed. -/
inductive Field where
  | name | version | fullname | author | authorEmail | maintainer | maintainerEmail
  | contact | contactEmail | url | license | description | longDescription
  | platforms | classifiers | keywords | provides | requires | obsoletes
  deriving Repr, DecidableEq

/-- The field that a display option prints, by the option's long name. -/
def Field.ofOption? : String → Option Field
  | "name" => some .name
  | "version" => some .version
  | "fullname" => some .fullname
  | "author" => some .author
  | "author-email" => some .authorEmail
  | "maintainer" => some .maintainer
  | "maintainer-email" => some .maintainerEmail
  | "contact" => some .contact
  | "contact-email" => some .contactEmail
  | "url" => some .url
  | "license" => some .license
  | "description" => some .description
  | "long-description" => some .longDescription
  | "platforms" => some .platforms
  | "classifiers" => some .classifiers
  | "keywords" => some .keywords
  | "provides" => some .provides
  | "requires" => some .requires
  | "obsoletes" => some .obsoletes
  | _ => none

/-- The value `a` unless it is missing or empty, and then `b`. -/
def orElse (a b : Option String) : Option String :=
  match a with
  | some s => if s.isEmpty then b else a
  | none => b

/-- A text field as printed. -/
def shown : Option String → String
  | some s => s
  | none => "None"

/-- The name, or `UNKNOWN`. -/
def Metadata.nameOrUnknown (m : Metadata) : String :=
  shown (orElse m.name (some "UNKNOWN"))

/-- The version, or `0.0.0`. -/
def Metadata.versionOrZero (m : Metadata) : String :=
  shown (orElse m.version (some "0.0.0"))

/-- The text printed for a field. -/
def Metadata.text (m : Metadata) : Field → Except Fault String
  | .name => .ok m.nameOrUnknown
  | .version => .ok m.versionOrZero
  | .fullname => .ok (m.nameOrUnknown ++ "-" ++ m.versionOrZero)
  | .author => .ok (shown m.author)
  | .authorEmail => .ok (shown m.authorEmail)
  | .maintainer => .ok (shown m.maintainer)
  | .maintainerEmail => .ok (shown m.maintainerEmail)
  | .contact => .ok (shown (orElse m.maintainer m.author))
  | .contactEmail => .ok (shown (orElse m.maintainerEmail m.authorEmail))
  | .url => .ok (shown m.url)
  | .license => .ok (shown m.license)
  | .description => .ok (shown m.description)
  | .longDescription => .ok (shown m.longDescription)
  | .platforms =>
    match m.platforms with
    | some ps => .ok (",".intercalate ps)
    | none => .error .joinMissing
  | .keywords => .ok (",".intercalate (m.keywords.getD []))
  | .classifiers => .ok ("\n".intercalate (m.classifiers.getD []))
  | .provides => .ok ("\n".intercalate (m.provides.getD []))
  | .requires => .ok ("\n".intercalate (m.requires.getD []))
  | .obsoletes => .ok ("\n".intercalate (m.obsoletes.getD []))

/-- With no maintainer, the contact is the author. -/
theorem text_contact_of_no_maintainer (m : Metadata) (h : m.maintainer = none) :
    m.text .contact = m.text .author := by
  simp [Metadata.text, orElse, h]

end ByteMachine.Package
