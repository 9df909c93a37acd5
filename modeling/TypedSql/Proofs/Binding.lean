import TypedSql.Proofs.Join.Binding

namespace TypedSql

def Table.aged (key : String) : Table :=
  ⟨key, key, [⟨"Age", ⟨.int32, false⟩⟩]⟩

def Select.aged : Select :=
  ((Select.all (.aged "a")).filter (.neitherOlderNorNameless (.aged "a"))).filter
    (.not (.compare .greater (.column ⟨.aged "a", "Age", .int32⟩) (.literal (.int32 90))))

/-- An assignment and a filter, which record under the same column. -/
def Update.aged : Update :=
  ((Update.all (.aged "a")).set "Age" (.int32 7)).filter (.neitherOlderNorNameless (.aged "a"))

def Insert.aged : Insert :=
  ⟨.aged "a", ⟨[("Age", .int32 7), ("Name", .string "Ann")]⟩⟩

def Join.filteredTwice : List Join.Instruction :=
  [.add .inner (.aged "a") (.aged "b"), .on "Age" "Age",
    .filter (.neitherOlderNorNameless (.aged "b")), .filter (.neitherOlderNorNameless (.aged "a"))]

end TypedSql
