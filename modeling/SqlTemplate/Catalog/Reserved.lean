/-! A catalog shares its names with its own members, so queries cannot take the names of those. -/

namespace SqlTemplate.Catalog

/-- The members that a catalog has of its own. -/
def ownMembers : List String :=
  ["config", "_queries", "_children", "available_queries", "add_query", "load_from_mapping",
   "load_from_loader", "_check_name"]

/-- The members that every object has. -/
def objectMembers : List String :=
  ["__class__", "__contains__", "__delattr__", "__dict__", "__dir__", "__doc__", "__eq__",
   "__format__", "__ge__", "__getattribute__", "__getitem__", "__getstate__", "__gt__",
   "__hash__", "__init__", "__init_subclass__", "__iter__", "__le__", "__len__", "__lt__",
   "__module__", "__ne__", "__new__", "__reduce__", "__reduce_ex__", "__repr__", "__setattr__",
   "__sizeof__", "__str__", "__subclasshook__", "__weakref__"]

/-- The members that every kind of object has. -/
def kindMembers : List String :=
  ["__annotations__", "__base__", "__bases__", "__basicsize__", "__call__", "__dictoffset__",
   "__flags__", "__instancecheck__", "__itemsize__", "__mro__", "__name__", "__or__",
   "__prepare__", "__qualname__", "__ror__", "__subclasscheck__", "__subclasses__",
   "__text_signature__", "__weakrefoffset__", "mro"]

/-- Whether a name is taken by a member. -/
def isReserved (name : String) : Bool :=
  ownMembers.contains name || objectMembers.contains name || kindMembers.contains name

end SqlTemplate.Catalog
