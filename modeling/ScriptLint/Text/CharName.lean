import ScriptLint.Text.CharName.AToC
import ScriptLint.Text.CharName.DToM
import ScriptLint.Text.CharName.NToZ
import ScriptLint.Text.CharRange

/-!
# Names of characters

Characters have names of capital letters, digits, blanks and hyphens, and some have
other names beside them.  The names of unified ideographs and of Hangul syllables
follow from their code points.  Only those have to be written in capitals.
-/

namespace ScriptLint.Text

/-! ## Names in a table -/

/-- The tree of the names that start with a letter. -/
def charNamesFrom : Char → List String
  | 'A' => charNamesA
  | 'B' => charNamesB
  | 'C' => charNamesC
  | 'D' => charNamesD
  | 'E' => charNamesE
  | 'F' => charNamesF
  | 'G' => charNamesG
  | 'H' => charNamesH
  | 'I' => charNamesI
  | 'J' => charNamesJ
  | 'K' => charNamesK
  | 'L' => charNamesL
  | 'M' => charNamesM
  | 'N' => charNamesN
  | 'O' => charNamesO
  | 'P' => charNamesP
  | 'Q' => charNamesQ
  | 'R' => charNamesR
  | 'S' => charNamesS
  | 'T' => charNamesT
  | 'U' => charNamesU
  | 'V' => charNamesV
  | 'W' => charNamesW
  | 'X' => charNamesX
  | 'Y' => charNamesY
  | 'Z' => charNamesZ
  | _ => []

/-- Signs for what is often repeated in the trees.  The text of a sign may hold the signs
before it. -/
def nameSigns : List (Char × String) :=
  [
    ('a', "),"), ('b', "0,1,2,3,4,5,6,7,8,9"), ('c', "(,"),
    ('d', "IGIT (EIGHT,F(IVE,OURaNINE,ONE,S(EVEN,IXaT(HREE,WO"), ('e', " ("), ('f', "A,"),
    ('g', " FORM"), ('h', ")a"), ('i', "AR"), ('j', "E,"), ('k', "IN"), ('l', "WITH"), ('m', "AL"),
    ('n', "ER"), ('o', "I(NITImg,SOLATEDga"), ('p', "ON"), ('q', "AN"), ('r', "IGHT"), ('s', "LE"),
    ('t', " SIGN"), ('u', " iROW"), ('v', "Aa"), ('w', "(b,fB,C,D,jFa"), ('x', "EN"), ('y', "ED"),
    ('z', "BELOW"), ('!', "c "), ('$', "efB,C,D,jF,G,H,I,J,K,L,M,N,O,P,Q,R,S,T,U,V,W,X,Y,Z"),
    ('%', "eFkmg,ISOLATyg"), ('&', "TI"), ('*', "(f"), ('+', "ABOV"), ('.', " S"), (':', "(A"),
    (';', "1,2,3,4,5"), ('<', "TH"), ('=', ".YMBOL"), ('>', " MiK"), ('?', "T,"), ('@', ")h"),
    ('[', "I,"), (']', "RA"), ('^', "ES"), ('_', "RO"), ('|', "Ea"), ('~', "kG"),
    ('α', "IcOTvJ,KcAPPvLcAMDvMcUaNcUaOcM(EGfICRphPcH[[SIaQ,RcHOaScIGMvTcAU,HET"),
    ('β', "!_TATyeNkETY DEGRE^,TWO HUNDRy.EVxTY DEGRE^h"), ('γ', "eFkmg,oMyImg"), ('δ', "sTTne"),
    ('ε', "eHUNDRy,<OUSqD"), ('ζ', "HORIZpTm"), ('η', "cP,?Xa"), ('θ', " B]CKE"),
    ('ι', "4c5c6c7c8a8a7c8a8a6c7c8a8a7c8a8a5c6c7c8a8a7c8a8a6c7c8a8a7c8a8"),
    ('κ', "UaB*HvC*HvD*D*HvHvjG*HvHfIcIaJ*HvK*H"), ('λ', "HOOK"), ('μ', "WiDS"), ('ν', "GEG]MMxI"),
    ('ξ', "MIDDs "), ('ο', " OFeCLUBS,DIAMpDS,HEiTS,SPAD^"), ('π', "6,7,8,9"),
    ('ρ', "OCmICeLcLaRcR"), ('σ', "eBiBu,HEAVY BiBu,Lr BiBu,MyIUM BiBu,VnY HEAVY BiBu"),
    ('τ', "BLACK"), ('υ', " DOT"), ('φ', "lemEF MAKSU]"), ('χ', "P,RcXa?X"), ('ψ', "Vn&Cm"),
    ('ω', "DOUBs")
  ]

/-- A text with its signs written out, given what they stand for. -/
def writeOut (signs : List (Char × List Char)) (text : List Char) : List Char :=
  text.flatMap fun char => (signs.lookup char).getD [char]

/-- What the signs stand for, written out. -/
def signTexts : List (Char × List Char) :=
  nameSigns.foldl (fun known sign => (sign.1, writeOut known sign.2.toList) :: known) []

/-- Where a search in a tree of names stands. -/
structure NameSearch where
  /-- What is left of the name after the path to this place, if that starts the
  name. -/
  left : Option (List Char)
  /-- The same for the groups around this place, the innermost first. -/
  outer : List (Option (List Char))
  found : Bool
deriving DecidableEq, Repr

namespace NameSearch

def start (name : List Char) : NameSearch :=
  ⟨some name, [], false⟩

/-- Whether the path to this place is the name, if it ends here. -/
def isThere (search : NameSearch) : Bool :=
  search.found || search.left = some []

/-- What is left of a name after a character. -/
def after (char : Char) : List Char → Option (List Char)
  | [] => none
  | first :: rest => if first = char then some rest else none

/-- The search after one more character of the tree.  Parentheses hold a group, and
commas stand between its members. -/
def step (search : NameSearch) (char : Char) : NameSearch :=
  if char = '(' then { search with outer := search.left :: search.outer }
  else if char = ',' then
    ⟨search.outer.headD none, search.outer, search.isThere⟩
  else if char = ')' then ⟨none, search.outer.tail, search.isThere⟩
  else { search with left := search.left.bind (after char) }

end NameSearch

/-- The search after one more line of the tree. -/
def NameSearch.stepLine (search : NameSearch) (line : String) : NameSearch :=
  (writeOut signTexts line.toList).foldl step search

def treeHolds (tree : List String) (name : List Char) : Bool :=
  (tree.foldl NameSearch.stepLine (.start name)).isThere

/-- Whether a name is in the table, written in any case. -/
def isTabledName (name : List Char) : Bool :=
  match name.map Char.toUpper with
  | [] => false
  | first :: rest => treeHolds (charNamesFrom first) (first :: rest)

/-! ## Names that follow from code points -/

/-- The code points of the unified ideographs. -/
def ideographRanges : List (Nat × Nat) :=
  [(0x3400, 0x4DBF), (0x4E00, 0x9FFF), (0x20000, 0x2A6DF), (0x2A700, 0x2B738),
    (0x2B740, 0x2B81D), (0x2B820, 0x2CEA1), (0x2CEB0, 0x2EBE0), (0x30000, 0x3134A)]

def capitalDigit? (char : Char) : Option Nat :=
  if '0' ≤ char && char ≤ '9' then some (char.toNat - '0'.toNat)
  else if 'A' ≤ char && char ≤ 'F' then some (char.toNat - 'A'.toNat + 10)
  else none

def capitalCode? (digits : List Char) : Option Nat :=
  digits.foldl (fun code digit =>
    match code, capitalDigit? digit with
    | some code, some value => some (code * 16 + value)
    | _, _ => none) (some 0)

def afterBeginning? (beginning : String) (name : List Char) : Option (List Char) :=
  if beginning.toList.isPrefixOf name then some (name.drop beginning.length) else none

/-- Whether a name is that of a unified ideograph: its code point in four or five
digits. -/
def isIdeographName (name : List Char) : Bool :=
  match afterBeginning? "CJK UNIFIED IDEOGRAPH-" name with
  | some digits =>
      (digits.length = 4 || digits.length = 5) &&
        (capitalCode? digits).any fun code => inRanges code ideographRanges
  | none => false

/-- The first sounds of a Hangul syllable, of which one is not written. -/
def syllableStarts : List String :=
  ["G", "GG", "N", "D", "DD", "R", "M", "B", "BB", "S", "SS", "", "J", "JJ", "C", "K", "T",
    "P", "H"]

/-- The middle sounds of a Hangul syllable. -/
def syllableMiddles : List String :=
  ["A", "AE", "YA", "YAE", "EO", "E", "YEO", "YE", "O", "WA", "WAE", "OE", "YO", "U", "WEO",
    "WE", "WI", "YU", "EU", "YI", "I"]

/-- The last sounds of a Hangul syllable, which need not have one. -/
def syllableEnds : List String :=
  ["", "G", "GG", "GS", "N", "NJ", "NH", "D", "L", "LG", "LM", "LB", "LS", "LT", "LP", "LH",
    "M", "B", "BS", "S", "SS", "NG", "J", "C", "K", "T", "P", "H"]

/-- Whether a name is that of a Hangul syllable: its sounds one after the other. -/
def isSyllableName (name : List Char) : Bool :=
  match afterBeginning? "HANGUL SYLLABLE " name with
  | some sounds =>
      syllableStarts.any fun start =>
        (afterBeginning? start sounds).any fun sounds =>
          syllableMiddles.any fun middle =>
            (afterBeginning? middle sounds).any fun last =>
              syllableEnds.contains (String.ofList last)
  | none => false

def isCharName (name : List Char) : Bool :=
  isTabledName name || isIdeographName name || isSyllableName name

end ScriptLint.Text
