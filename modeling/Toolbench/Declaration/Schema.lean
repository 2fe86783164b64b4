import Toolbench.Declaration.Basic

/-! The two machine-readable forms of a declaration, as documents. Both hold a schema of the
parameters, with one property for each and the list of the required ones. -/

namespace Toolbench

/-- A document of texts, lists and objects; the members of an object keep their order. -/
inductive Document where
  | text (s : String)
  | items (parts : List Document)
  | object (members : List (String × Document))

namespace Parameter

/-- The property that a parameter has in a schema. -/
def property (p : Parameter) : Document :=
  .object [("type", .text p.label), ("description", .text p.usage)]

end Parameter

namespace Declaration

def parameterSchema (d : Declaration) : Document :=
  .object
    [("type", .text "object"),
     ("properties", .object (d.parameters.map fun p => (p.name, p.property))),
     ("required", .items (d.requiredNames.map .text))]

/-- The form in which a function is offered to a chat model. -/
def functionSchema (d : Declaration) : Document :=
  .object
    [("type", .text "function"),
     ("function", .object
       [("name", .text d.name),
        ("description", .text d.usage),
        ("parameters", d.parameterSchema)])]

/-- The form in which a tool is offered to a model that reads its input schema directly. -/
def toolSchema (d : Declaration) : Document :=
  .object
    [("name", .text d.name),
     ("description", .text d.usage),
     ("input_schema", d.parameterSchema)]

end Declaration

end Toolbench
