import Phrasebook.Proofs.Extraction.Folder
import Phrasebook.Proofs.Extraction.Plugin

namespace Phrasebook.Registry

section

variable {registry : Registry} (h : registry.Fresh) {extension : String} {plugin : Plugin}

include h

end

end Phrasebook.Registry

namespace Phrasebook.Extraction

open Registry (Fresh)

section

variable {registry : Registry} (fresh : registry.Fresh) (parsers : Script.Parsers)
  (options : ExtractOptions) (seen : List String) (file : String) {extension : String}
  (code : List Char)

theorem ofText_of_lookup_none (h : registry.lookup extension = none) :
    ofText parsers options (some registry) file extension code =
      withoutPlugin parsers options (some registry) file extension code := by
  simp only [ofText, h]

theorem ofText_of_lookup {plugin : Plugin} (h : registry.lookup extension = some plugin) :
    ofText parsers options (some registry) file extension code =
      .ofPlugin registry (plugin.extract parsers file code) := by
  simp only [ofText, h]

theorem withoutPlugin_unclaimed (unclaimed : registry.claimant? extension = none) :
    withoutPlugin parsers options (some registry) file extension code =
      ⟨(withoutPlugin parsers options none file extension code).outcome, some registry, []⟩ := by
  simp only [withoutPlugin, unclaimed]
  split
  · rfl
  · split <;> rfl

include fresh

section

variable {inner : ComponentPlugin}
  (found : registry.claimant? inner.language.extension = some (.component inner))

include found

section

variable (available : inner.available = true)

include available

section

variable (before : inner.language.extension ∈ seen)

include before

end

end

end

end

section

variable (parsers : Script.Parsers) {tree : Tree} {registry : Registry} (options : ExtractOptions)
  (place : String)

end

end Phrasebook.Extraction
