/-!
# SqlFront.Label

The names of the grammar, as they label the inner nodes of a grammar tree.
-/

namespace SqlFront
namespace Label

def query : String := "<query>"
def columnList : String := "<column_list>"
def columnName : String := "<column_name>"
def columnListTail : String := "<column_list_tail>"
def tableName : String := "<table_name>"
def optionalWhere : String := "<optional_where>"
def condition : String := "<condition>"
def valueList : String := "<value_list>"
def value : String := "<value>"
def valueListTail : String := "<value_list_tail>"
def columnDefsList : String := "<column_defs_list>"
def columnDef : String := "<column_def>"
def columnDefsListTail : String := "<column_defs_list_tail>"
def dataType : String := "<data_type>"

/-- The label of a column constraint. No statement has one, but a tree may. -/
def constraint : String := "<constraint>"

end Label
end SqlFront
