import Phrasebook.Component.Markup.Svelte
import Phrasebook.Component.Markup.Vue
import Phrasebook.Component.Plugin

namespace Phrasebook.Language

def markup : Language → Component.Markup
  | svelte => .svelte
  | vue => .vue

/-- The grammar that follows the markup of a language. It has a tree for every source. -/
def grammar (language : Language) : ComponentGrammar := fun source =>
  .ok (language.markup.document source)

end Phrasebook.Language
