import ScriptLint.Path.Basic

/-!
# Languages and grammars

The suffix of a path decides which language a file is written in and with which
grammar it is parsed.
-/

namespace ScriptLint

/-- The languages that are analysed. -/
inductive Language where
  | javascript
  | typescript
  | vue
deriving DecidableEq, Repr

/-- The grammars that texts are parsed with. -/
inductive Grammar where
  | javascript
  | typescript
  | tsx
deriving DecidableEq, Repr

def Language.word : Language → String
  | javascript => "javascript"
  | typescript => "typescript"
  | vue => "vue"

def Grammar.word : Grammar → String
  | javascript => "javascript"
  | typescript => "typescript"
  | tsx => "tsx"

def Language.ofWord? (word : String) : Option Language :=
  [Language.javascript, .typescript, .vue].find? (·.word = word)

def Grammar.ofWord? (word : String) : Option Grammar :=
  [Grammar.javascript, .typescript, .tsx].find? (·.word = word)

namespace Path

/-- The language of a file, if its suffix is known. -/
def language? (path : Path) : Option Language :=
  let suffix := path.suffix
  if [".js", ".jsx", ".mjs", ".cjs"].contains suffix then some .javascript
  else if [".ts", ".tsx", ".mts", ".cts"].contains suffix then some .typescript
  else if suffix = ".vue" then some .vue
  else none

/-- The grammar of a file that holds nothing but a script. -/
def grammar (path : Path) : Grammar :=
  let suffix := path.suffix
  if [".ts", ".mts", ".cts"].contains suffix then .typescript
  else if suffix = ".tsx" then .tsx
  else .javascript

end Path

end ScriptLint
