import ContractDictionary.Target.Naming
import ContractDictionary.Template.Syntax

/-!
# Built-in templates

The templates of the files that declare enumerations, states and terms, and of those that declare
the algorithms of contracts and their functions.
-/

namespace ContractDictionary.Template.Builtin

instance : Coe String Node := ⟨.text⟩

def slot (field : String) : Node :=
  .name field

def slotOf (owner field : String) : Node :=
  .value (.path (.block 0) [owner, field])

def each (field : String) (body : List Node) : Node :=
  .block "each" [.reference (.path (.block 0) [field])] [] body none

def given (field : String) (body : List Node) : Node :=
  .block "if" [.reference (.path (.block 0) [field])] [] body none

/-- The first parts if a field is true or not empty, else the second ones. -/
def choose (field : String) (body otherwise : List Node) : Node :=
  .block "if" [.reference (.path (.block 0) [field])] [] body (some otherwise)

/-- The first line of a file, a comment after the given mark. -/
def firstLine (mark : String) : List Node :=
  [mark, " Generated by actus-mp from ACTUS dictionary v", slot "version", " (",
    slot "version_date", "). Do not edit.\n"]

def heading (mark : String) (body : List Node) : Template :=
  firstLine mark ++ body

/-! ## Types -/

def enumeration : Language → Template
  | .python => heading "#" [
      "import enum\n\n\n",
      "class ", slot "type_name", "(enum.Enum):\n",
      "    \"\"\"", slot "name", ": ", slot "description", "\n\n",
      "    \"\"\"\n",
      each "members" [
        "    # ", slot "description", "\n",
        "    ", slot "name", " = ", slot "option", "\n"]]
  | .rust => heading "//" [
      "\n",
      "/// ", slot "name", ": ", slot "description", "\n",
      "#[allow(non_camel_case_types)]\n",
      "#[derive(Debug, Clone, Copy, PartialEq, Eq, Hash)]\n",
      "#[repr(i64)]\n",
      "pub enum ", slot "type_name", " \x7b\n",
      each "members" [
        "    /// ", slot "description", "\n",
        "    ", slot "name", " = ", slot "option", ",\n"],
      "\x7d\n"]
  | .typeScript => heading "//" [
      "\n",
      "/** ", slot "name", ": ", slot "description", " */\n",
      "export enum ", slot "type_name", " \x7b\n",
      each "members" [
        "    /** ", slot "description", " */\n",
        "    ", slot "name", " = ", slot "option", ",\n"],
      "\x7d\n"]

def enumerationIndex : Language → Template
  | .python => heading "#" [
      each "enums" [
        "from .", slot "module", " import ", slot "type_name", "\n"]]
  | .rust => heading "//" [
      "\n",
      each "enums" [
        "mod ", slot "module", ";\n"],
      "\n",
      each "enums" [
        "pub use ", slot "module", "::", slot "type_name", ";\n"]]
  | .typeScript => heading "//" [
      "\n",
      each "enums" [
        "export \x7b ", slot "type_name", " \x7d from './", slot "module", "';\n"]]

def stateSpace : Language → Template
  | .python => heading "#" [
      "import dataclasses\n",
      "import datetime\n",
      "import typing\n\n",
      "from .. import core\n",
      "from .. import enums\n\n\n",
      "@dataclasses.dataclass\n",
      "class States():\n",
      "    \"\"\"Set of states mutated over a contract's lifecycle.\n\n",
      "    \"\"\"\n",
      each "states" [
        "    # ", slot "name", ": ", slot "description", "\n",
        "    ", slot "field", ": ", slot "field_type", " = None\n"]]
  | .rust => heading "//" [
      "\n",
      "#[allow(unused_imports)]\n",
      "use crate::types::\x7bcore, enums\x7d;\n\n",
      "/// Set of states mutated over a contract's lifecycle.\n",
      "#[derive(Debug, Clone, Default)]\n",
      "pub struct States \x7b\n",
      each "states" [
        "    /// ", slot "name", ": ", slot "description", "\n",
        "    pub ", slot "field", ": ", slot "field_type", ",\n"],
      "\x7d\n"]
  | .typeScript => heading "//" [
      "\n",
      "import * as core from '.';\n",
      "import * as enums from '../enums';\n\n",
      "/** Set of states mutated over a contract's lifecycle. */\n",
      "export class States \x7b\n",
      each "states" [
        "    /** ", slot "name", ": ", slot "description", " */\n",
        "    ", slot "field", "?: ", slot "field_type", ";\n"],
      "\x7d\n"]

def termSet : Language → Template
  | .python => heading "#" [
      "import dataclasses\n",
      "import datetime\n",
      "import typing\n\n",
      "from .. import core\n",
      "from .. import enums\n\n\n",
      "@dataclasses.dataclass\n",
      "class ", slotOf "contract" "type_name", "Terms():\n",
      "    \"\"\"Set of ", slotOf "contract" "name", " (", slotOf "contract" "acronym",
      ") contract terms.\n\n",
      "    ", slotOf "contract" "description", "\n\n",
      "    \"\"\"\n",
      each "terms" [
        "    # ", slot "name", ": ", slot "description", "\n",
        choose "is_array" [
          "    ", slot "field", ": ", slot "field_type",
          " = dataclasses.field(default_factory=list)\n"] [
          "    ", slot "field", ": ", slot "field_type", " = ", slot "initializer", "\n"]]]
  | .rust => heading "//" [
      "\n",
      "#[allow(unused_imports)]\n",
      "use crate::types::\x7bcore, enums\x7d;\n\n",
      "/// Set of ", slotOf "contract" "name", " (", slotOf "contract" "acronym",
      ") contract terms.\n",
      "#[derive(Debug, Clone)]\n",
      "pub struct ", slotOf "contract" "type_name", "Terms \x7b\n",
      each "terms" [
        "    /// ", slot "name", ": ", slot "description", "\n",
        "    pub ", slot "field", ": ", slot "field_type", ",\n"],
      "\x7d\n\n",
      "impl Default for ", slotOf "contract" "type_name", "Terms \x7b\n",
      "    fn default() -> Self \x7b\n",
      "        Self \x7b\n",
      each "terms" [
        "            ", slot "field", ": ", slot "initializer", ",\n"],
      "        \x7d\n",
      "    \x7d\n",
      "\x7d\n"]
  | .typeScript => heading "//" [
      "\n",
      "import * as core from '../core';\n",
      "import * as enums from '../enums';\n\n",
      "/** Set of ", slotOf "contract" "name", " (", slotOf "contract" "acronym",
      ") contract terms. */\n",
      "export class ", slotOf "contract" "type_name", "Terms \x7b\n",
      each "terms" [
        "    /** ", slot "name", ": ", slot "description", " */\n",
        choose "optional_flag" [
          "    ", slot "field", "?: ", slot "field_type", ";\n"] [
          "    ", slot "field", ": ", slot "field_type", " = ", slot "initializer", ";\n"]],
      "\x7d\n"]

def termSetIndex : Language → Template
  | .python => heading "#" [
      each "contracts" [
        "from .", slot "module", " import ", slot "type_name", "Terms\n"]]
  | .rust => heading "//" [
      "\n",
      each "contracts" [
        "mod ", slot "module", ";\n"],
      "\n",
      each "contracts" [
        "pub use ", slot "module", "::", slot "type_name", "Terms;\n"]]
  | .typeScript => heading "//" [
      "\n",
      each "contracts" [
        "export \x7b ", slot "type_name", "Terms \x7d from './", slot "module", "';\n"]]

/-! ## Algorithms -/

def functionIndex : Language → Template
  | .python => heading "#" [
      each "contracts" [
        "from . import ", slot "module", "\n"],
      "\n\n",
      "# Map: contract type acronym -> algorithm package.\n",
      "_PACKAGES = \x7b\n",
      each "contracts" [
        "    \"", slot "acronym", "\": ", slot "module", ",\n"],
      "\x7d\n\n\n",
      "def ", slot "schedule_module", "(contract_type: str, terms):\n",
      "    \"\"\"Returns the event schedule of a contract.\n\n",
      "    \"\"\"\n",
      "    return _PACKAGES[contract_type].", slot "schedule_module", "(terms)\n\n\n",
      "def ", slot "execute_step_module",
      "(contract_type: str, terms, state, event_type, timestamp):\n",
      "    \"\"\"Executes a single step of a contract.\n\n",
      "    \"\"\"\n",
      "    return _PACKAGES[contract_type].", slot "execute_step_module",
      "(terms, state, event_type, timestamp)\n"]
  | .rust => heading "//" [
      "\n",
      each "contracts" [
        "pub mod ", slot "module", ";\n"]]
  | .typeScript => heading "//" [
      "\n",
      each "contracts" [
        "import * as ", slot "module", " from './", slot "module", "';\n"],
      "\n",
      "// Map: contract type acronym -> algorithm module.\n",
      "export const ALGORITHMS = \x7b\n",
      each "contracts" [
        "    ", slot "acronym", ": ", slot "module", ",\n"],
      "\x7d;\n"]

def algorithmIndex : Language → Template
  | .python => heading "#" [
      "from .", slot "schedule_module", " import ", slot "schedule_module", "\n",
      "from .", slot "execute_step_module", " import ", slot "execute_step_module", "\n",
      each "functions" [
        "from .", slot "module", " import ", slot "module", "\n"]]
  | .rust => heading "//" [
      "\n",
      "mod ", slot "schedule_module", ";\n",
      "mod ", slot "execute_step_module", ";\n",
      each "functions" [
        "mod ", slot "module", ";\n"],
      "\n",
      "pub use ", slot "schedule_module", "::", slot "schedule_module", ";\n",
      "pub use ", slot "execute_step_module", "::", slot "execute_step_module", ";\n",
      each "functions" [
        "pub use ", slot "module", "::", slot "module", ";\n"]]
  | .typeScript => heading "//" [
      "\n",
      "export \x7b ", slot "schedule_module", " \x7d from './", slot "schedule_module", "';\n",
      "export \x7b ", slot "execute_step_module", " \x7d from './", slot "execute_step_module",
      "';\n",
      each "functions" [
        "export \x7b ", slot "module", " \x7d from './", slot "module", "';\n"]]

def scheduleStub : Language → Template
  | .python => heading "#" [
      "import typing\n\n",
      "from ...types import core\n",
      "from ...types.terms import ", slotOf "contract" "type_name", "Terms\n\n\n",
      "def ", slot "schedule_module", "(terms: ", slotOf "contract" "type_name",
      "Terms) -> typing.List[core.ContractEvent]:\n",
      "    \"\"\"Returns the event schedule of a ", slotOf "contract" "name", " (",
      slotOf "contract" "acronym", ") contract.\n\n",
      "    \"\"\"\n",
      "    raise NotImplementedError()\n"]
  | .rust => heading "//" [
      "\n",
      "use crate::types::core;\n",
      "use crate::types::terms::", slotOf "contract" "type_name", "Terms;\n\n",
      "/// Returns the event schedule of a ", slotOf "contract" "name", " (",
      slotOf "contract" "acronym", ") contract.\n",
      "pub fn ", slot "schedule_module", "(_terms: &", slotOf "contract" "type_name",
      "Terms) -> Vec<core::ContractEvent> \x7b\n",
      "    todo!()\n",
      "\x7d\n"]
  | .typeScript => heading "//" [
      "\n",
      "import * as core from '../../types/core';\n",
      "import \x7b ", slotOf "contract" "type_name", "Terms \x7d from '../../types/terms';\n\n",
      "/** Returns the event schedule of a ", slotOf "contract" "name", " (",
      slotOf "contract" "acronym", ") contract. */\n",
      "export function ", slot "schedule_module", "(terms: ", slotOf "contract" "type_name",
      "Terms): Array<core.ContractEvent> \x7b\n",
      "    throw new Error('Not implemented');\n",
      "\x7d\n"]

def executeStepStub : Language → Template
  | .python => heading "#" [
      "import datetime\n\n",
      "from ...types import enums\n",
      "from ...types.core.states import States\n",
      "from ...types.terms import ", slotOf "contract" "type_name", "Terms\n\n\n",
      "def ", slot "execute_step_module", "(\n",
      "    terms: ", slotOf "contract" "type_name", "Terms,\n",
      "    state: States,\n",
      "    event_type: enums.EventType,\n",
      "    timestamp: datetime.datetime\n",
      ") -> States:\n",
      "    \"\"\"Executes a single step of a ", slotOf "contract" "name", " (",
      slotOf "contract" "acronym", ") contract.\n\n",
      "    Reference functions:\n",
      each "functions" [
        "        ", slot "function_type", " ", slot "event_type",
        given "suffix" [" (", slot "suffix", ")"], "\n"],
      "\n",
      "    \"\"\"\n",
      "    raise NotImplementedError()\n"]
  | .rust => heading "//" [
      "\n",
      "use crate::types::core::states::States;\n",
      "use crate::types::core::Timestamp;\n",
      "use crate::types::enums::EventType;\n",
      "use crate::types::terms::", slotOf "contract" "type_name", "Terms;\n\n",
      "/// Executes a single step of a ", slotOf "contract" "name", " (",
      slotOf "contract" "acronym", ") contract.\n",
      "///\n",
      "/// Reference functions:\n",
      each "functions" [
        "/// - ", slot "function_type", " ", slot "event_type",
        given "suffix" [" (", slot "suffix", ")"], "\n"],
      "pub fn ", slot "execute_step_module", "(\n",
      "    _terms: &", slotOf "contract" "type_name", "Terms,\n",
      "    _state: &mut States,\n",
      "    _event_type: EventType,\n",
      "    _timestamp: Timestamp,\n",
      ") \x7b\n",
      "    todo!()\n",
      "\x7d\n"]
  | .typeScript => heading "//" [
      "\n",
      "import * as enums from '../../types/enums';\n",
      "import \x7b States \x7d from '../../types/core/states';\n",
      "import \x7b ", slotOf "contract" "type_name", "Terms \x7d from '../../types/terms';\n\n",
      "/**\n",
      " * Executes a single step of a ", slotOf "contract" "name", " (",
      slotOf "contract" "acronym", ") contract.\n",
      " *\n",
      " * Reference functions:\n",
      each "functions" [
        " *  - ", slot "function_type", " ", slot "event_type",
        given "suffix" [" (", slot "suffix", ")"], "\n"],
      " */\n",
      "export function ", slot "execute_step_module", "(\n",
      "    terms: ", slotOf "contract" "type_name", "Terms,\n",
      "    state: States,\n",
      "    eventType: enums.EventType,\n",
      "    timestamp: Date\n",
      "): States \x7b\n",
      "    throw new Error('Not implemented');\n",
      "\x7d\n"]

def payoffStub : Language → Template
  | .python => heading "#" [
      "import datetime\n\n",
      "from ...types.core.states import States\n",
      "from ...types.terms import ", slotOf "contract" "type_name", "Terms\n\n\n",
      "def ", slotOf "function" "module", "(terms: ", slotOf "contract" "type_name",
      "Terms, state: States, timestamp: datetime.datetime) -> float:\n",
      "    \"\"\"Payoff function for ", slotOf "function" "event_type", " events of a ",
      slotOf "contract" "name", " (", slotOf "contract" "acronym", ") contract.\n\n",
      "    \"\"\"\n",
      "    raise NotImplementedError()\n"]
  | .rust => heading "//" [
      "\n",
      "use crate::types::core::states::States;\n",
      "use crate::types::core::Timestamp;\n",
      "use crate::types::terms::", slotOf "contract" "type_name", "Terms;\n\n",
      "/// Payoff function for ", slotOf "function" "event_type", " events of a ",
      slotOf "contract" "name", " (", slotOf "contract" "acronym", ") contract.\n",
      "pub fn ", slotOf "function" "module", "(\n",
      "    _terms: &", slotOf "contract" "type_name", "Terms,\n",
      "    _state: &States,\n",
      "    _timestamp: Timestamp,\n",
      ") -> f64 \x7b\n",
      "    todo!()\n",
      "\x7d\n"]
  | .typeScript => heading "//" [
      "\n",
      "import \x7b States \x7d from '../../types/core/states';\n",
      "import \x7b ", slotOf "contract" "type_name", "Terms \x7d from '../../types/terms';\n\n",
      "/** Payoff function for ", slotOf "function" "event_type", " events of a ",
      slotOf "contract" "name", " (", slotOf "contract" "acronym", ") contract. */\n",
      "export function ", slotOf "function" "module", "(terms: ", slotOf "contract" "type_name",
      "Terms, state: States, timestamp: Date): number \x7b\n",
      "    throw new Error('Not implemented');\n",
      "\x7d\n"]

def stateTransitionStub : Language → Template
  | .python => heading "#" [
      "import datetime\n\n",
      "from ...types.core.states import States\n",
      "from ...types.terms import ", slotOf "contract" "type_name", "Terms\n\n\n",
      "def ", slotOf "function" "module", "(terms: ", slotOf "contract" "type_name",
      "Terms, state: States, timestamp: datetime.datetime) -> States:\n",
      "    \"\"\"State transition function for ", slotOf "function" "event_type", " events of a ",
      slotOf "contract" "name", " (", slotOf "contract" "acronym", ") contract.\n\n",
      "    \"\"\"\n",
      "    raise NotImplementedError()\n"]
  | .rust => heading "//" [
      "\n",
      "use crate::types::core::states::States;\n",
      "use crate::types::core::Timestamp;\n",
      "use crate::types::terms::", slotOf "contract" "type_name", "Terms;\n\n",
      "/// State transition function for ", slotOf "function" "event_type", " events of a ",
      slotOf "contract" "name", " (", slotOf "contract" "acronym", ") contract.\n",
      "pub fn ", slotOf "function" "module", "(\n",
      "    _terms: &", slotOf "contract" "type_name", "Terms,\n",
      "    _state: &States,\n",
      "    _timestamp: Timestamp,\n",
      ") -> States \x7b\n",
      "    todo!()\n",
      "\x7d\n"]
  | .typeScript => heading "//" [
      "\n",
      "import \x7b States \x7d from '../../types/core/states';\n",
      "import \x7b ", slotOf "contract" "type_name", "Terms \x7d from '../../types/terms';\n\n",
      "/** State transition function for ", slotOf "function" "event_type", " events of a ",
      slotOf "contract" "name", " (", slotOf "contract" "acronym", ") contract. */\n",
      "export function ", slotOf "function" "module", "(terms: ", slotOf "contract" "type_name",
      "Terms, state: States, timestamp: Date): States \x7b\n",
      "    throw new Error('Not implemented');\n",
      "\x7d\n"]

end ContractDictionary.Template.Builtin
