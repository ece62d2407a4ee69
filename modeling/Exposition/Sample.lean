import Exposition.Text.Blank
import Exposition.Text.Lowercase

/-!
# Sample — snippets to try without code at hand
-/

namespace Exposition

/-- An example program in a language. -/
structure Sample where
  language : String
  code : String
deriving DecidableEq, Repr

namespace Sample

/-- The example with these lines. -/
def ofLines (language : String) (lines : List String) : Sample :=
  ⟨language, String.intercalate "\n" lines⟩

/-- The Fibonacci sequence in Python. -/
def fibonacci : Sample := ofLines "python" [
  "# Python example: the Fibonacci sequence",
  "def fibonacci(n):",
  "    \"\"\"Build the first n Fibonacci numbers.\"\"\"",
  "    if n <= 0:",
  "        return []",
  "    elif n == 1:",
  "        return [0]",
  "    elif n == 2:",
  "        return [0, 1]",
  "",
  "    sequence = [0, 1]",
  "    for i in range(2, n):",
  "        next_num = sequence[i-1] + sequence[i-2]",
  "        sequence.append(next_num)",
  "",
  "    return sequence",
  "",
  "result = fibonacci(10)",
  "print(f\"First 10 Fibonacci numbers: \x7bresult\x7d\")"]

/-- Sorting with a comparator in JavaScript. -/
def sorting : Sample := ofLines "javascript" [
  "// JavaScript example: sorting with a comparator",
  "function customSort(arr, compareFn) \x7b",
  "    // Work on a copy so the input stays untouched",
  "    const sorted = [...arr];",
  "",
  "    for (let i = 0; i < sorted.length - 1; i++) \x7b",
  "        for (let j = 0; j < sorted.length - i - 1; j++) \x7b",
  "            if (compareFn(sorted[j], sorted[j + 1]) > 0) \x7b",
  "                [sorted[j], sorted[j + 1]] = [sorted[j + 1], sorted[j]];",
  "            \x7d",
  "        \x7d",
  "    \x7d",
  "",
  "    return sorted;",
  "\x7d",
  "",
  "const numbers = [64, 34, 25, 12, 22, 11, 90];",
  "const sorted = customSort(numbers, (a, b) => a - b);",
  "console.log('Sorted array:', sorted);"]

/-- Binary search in Java. -/
def binarySearch : Sample := ofLines "java" [
  "// Java example: binary search",
  "public class BinarySearch \x7b",
  "",
  "    public static int binarySearch(int[] arr, int target) \x7b",
  "        int left = 0;",
  "        int right = arr.length - 1;",
  "",
  "        while (left <= right) \x7b",
  "            int mid = left + (right - left) / 2;",
  "",
  "            if (arr[mid] == target) \x7b",
  "                return mid;",
  "            \x7d else if (arr[mid] < target) \x7b",
  "                left = mid + 1;",
  "            \x7d else \x7b",
  "                right = mid - 1;",
  "            \x7d",
  "        \x7d",
  "",
  "        return -1;",
  "    \x7d",
  "",
  "    public static void main(String[] args) \x7b",
  "        int[] sortedArray = \x7b1, 3, 5, 7, 9, 11, 13, 15\x7d;",
  "        int result = binarySearch(sortedArray, 7);",
  "        System.out.println(result != -1 ? \"Found at index: \" + result : \"Not found\");",
  "    \x7d",
  "\x7d"]

/-- Every example, in the order in which they are offered. -/
def all : List Sample := [fibonacci, sorting, binarySearch]

/-- **The example in a language**, whatever the case of its name and the blanks around it. -/
def find? (language : String) : Option Sample :=
  let word := Text.lowered (Text.trimmed language)
  all.find? (·.language == word)

end Sample

end Exposition
