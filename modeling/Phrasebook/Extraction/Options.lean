namespace Phrasebook

structure ExtractOptions where
  includes : List String
  excludes : List String
  names : List String
  /-- Search the text of a script for patterns when it cannot be parsed. -/
  fallback : Bool
  deriving DecidableEq, Repr

namespace ExtractOptions

def defaultInclude : String := "**/*.\x7bjs,jsx,ts,tsx,mjs,cjs,svelte,vue\x7d"

def defaultExcludes : List String :=
  ["node_modules/**", "dist/**", "build/**", ".svelte-kit/**", ".nuxt/**"]

def defaultNames : List String := ["$t", "t"]

def default : ExtractOptions := ⟨[defaultInclude], defaultExcludes, defaultNames, false⟩

end ExtractOptions

end Phrasebook
