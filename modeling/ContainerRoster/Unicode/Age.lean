import ContainerRoster.Unicode.CharSet

/-!
# Ages

The age of a character is the version of the standard that first has it. `runs` lists the ages of
all code points as consecutive runs: a count and, after the letter v, the version in which so many
code points came in, or the letter u for those that no version has.
-/

namespace ContainerRoster.Unicode.Age

/-- The ages of all code points, in order. -/
def runs : List (Nat × String) := CharSet.parseRuns
  ["502v1.1 4v3.0 30v1.1 8v3.0 1v3.2 1v4.0 18v3.0 3v4.0 11v4.1 14v5.0 89v1.1 5v3.0 2v4.0",
   "47v1.1 1v3.0 10v1.1 5v3.0 17v4.0 70v1.1 9v3.0 1v3.2 8v4.0 5v4.1 3v4.0 2v1.1 1v3.0",
   "13v3.2 4v5.1 2v1.1 2v5.1 2u 1v1.1 3v5.0 1v1.1 1v7.0 4u 7v1.1 1u 1v1.1 1u 20v1.1",
   "1u 44v1.1 1v5.1 7v1.1 1v3.0 2v3.2 1v1.1 1v3.0 1v1.1 1v3.0 1v1.1 1v3.0 1v1.1 1v3.0",
   "18v1.1 2v3.1 1v3.2 5v4.0 4v4.1 1v3.0 12v1.1 1v3.0 66v1.1 1v3.0 12v1.1 1v3.0 41v1.1",
   "1v5.1 2v3.0 2v3.2 4v3.0 53v1.1 2v3.2 2v1.1 2v3.2 2v1.1 2v3.2 1v5.0 28v1.1 2v3.0 8v1.1",
   "2v4.1 2v1.1 6v5.0 16v3.2 4v5.0 16v5.1 2v5.2 2v6.0 8v7.0 1u 38v1.1 2u 7v1.1 1v11.0",
   "39v1.1 1v11.0 1v1.1 1v3.0 2u 2v7.0 1v6.1 1u 17v2.0 1v4.1 13v2.0 10v1.1 1v5.0 9v1.1",
   "1v2.0 3v4.1 8u 27v1.1 4u 1v11.0 5v1.1 11u 4v4.0 1v6.1 1v7.0 5v5.1 1v4.1 1v1.1 9v4.0",
   "5v5.1 1v1.1 1v6.3 1v14.0 1v4.1 1v1.1 1v6.0 26v1.1 5v5.1 19v1.1 3v3.0 3v4.0 6v4.1 1v6.0",
   "14v1.1 2v3.2 72v1.1 2v3.0 5v1.1 1v3.0 15v1.1 1v3.0 30v1.1 2v4.0 10v1.1 5v3.0 1v4.0",
   "14v3.0 1u 30v3.0 3v4.0 27v3.0 2u 3v4.0 30v4.1 18v5.1 49v3.0 1v3.2 14u 59v5.0 2u",
   "3v11.0 46v5.2 2u 15v5.2 1u 28v6.0 2u 1v6.0 1u 11v10.0 5u 31v14.0 1u 2v14.0 5u",
   "1v16.0 8v14.0 1v6.1 1v7.0 11v6.1 6v7.0 2v8.0 1v14.0 8v9.0 10v13.0 11v14.0 1v11.0",
   "15v9.0 1v8.0 27v6.1 1v7.0 1v5.2 3v1.1 1v4.0 53v1.1 2v6.0 18v1.1 1v5.2 1v6.0 5v1.1",
   "1v5.2 2v6.0 25v1.1 2v5.1 5v6.0 1v7.0 2v5.2 2v5.0 1v4.1 2v5.0 1v7.0 3v1.1 1u 8v1.1 2u",
   "2v1.1 2u 22v1.1 1u 7v1.1 1u 1v1.1 3u 4v1.1 2u 1v1.1 1v4.0 7v1.1 2u 2v1.1 2u",
   "3v1.1 1v4.1 8u 1v1.1 4u 2v1.1 1u 5v1.1 2u 21v1.1 1v5.2 2v10.0 1v11.0 2u 1v4.0",
   "1v1.1 1v4.0 1u 6v1.1 4u 2v1.1 2u 22v1.1 1u 7v1.1 1u 2v1.1 1u 2v1.1 1u 2v1.1 2u",
   "1v1.1 1u 5v1.1 4u 2v1.1 2u 3v1.1 3u 1v5.1 7u 4v1.1 1u 1v1.1 7u 15v1.1 1v5.1",
   "1v11.0 10u 3v1.1 1u 7v1.1 1v4.0 1v1.1 1u 3v1.1 1u 22v1.1 1u 7v1.1 1u 2v1.1 1u",
   "5v1.1 2u 10v1.1 1u 3v1.1 1u 3v1.1 2u 1v1.1 15u 1v1.1 3v4.0 2u 10v1.1 1v6.1 1v4.0",
   "7u 1v8.0 6v10.0 1u 3v1.1 1u 8v1.1 2u 2v1.1 2u 22v1.1 1u 7v1.1 1u 2v1.1 1u",
   "1v4.0 4v1.1 2u 8v1.1 1v5.1 2u 2v1.1 2u 3v1.1 7u 1v13.0 2v1.1 4u 2v1.1 1u 3v1.1",
   "2v5.1 2u 11v1.1 1v4.0 6v6.0 10u 2v1.1 1u 6v1.1 3u 3v1.1 1u 4v1.1 3u 2v1.1 1u",
   "1v1.1 1u 2v1.1 3u 2v1.1 3u 3v1.1 3u 8v1.1 1v4.1 3v1.1 4u 5v1.1 3u 3v1.1 1u",
   "4v1.1 2u 1v5.1 6u 1v1.1 14u 1v4.1 12v1.1 8v4.0 5u 1v7.0 3v1.1 1v11.0 8v1.1 1u",
   "3v1.1 1u 23v1.1 1u 10v1.1 1v7.0 5v1.1 2u 1v14.0 1v5.1 7v1.1 1u 3v1.1 1u 4v1.1 7u",
   "2v1.1 1u 2v5.1 1v8.0 2u 1v14.0 2u 2v1.1 2v5.1 2u 10v1.1 7u 1v12.0 8v5.1 1v9.0",
   "1v7.0 2v1.1 1v11.0 8v1.1 1u 3v1.1 1u 23v1.1 1u 10v1.1 1u 5v1.1 2u 2v4.0 7v1.1 1u",
   "3v1.1 1u 4v1.1 7u 2v1.1 6u 1v14.0 1v1.1 1u 2v1.1 2v5.0 2u 10v1.1 1u 2v5.0 1v15.0",
   "12u 1v10.0 1v7.0 2v1.1 1v13.0 8v1.1 1u 3v1.1 1u 23v1.1 1v6.0 16v1.1 1v6.0 2v10.0",
   "1v5.1 6v1.1 1v5.1 1u 3v1.1 1u 4v1.1 1v6.0 1v9.0 4u 3v9.0 1v1.1 7v9.0 1v8.0 2v1.1",
   "2v5.1 2u 10v1.1 6v5.1 3v9.0 7v5.1 1u 1v13.0 2v3.0 1u 18v3.0 3u 24v3.0 1u 9v3.0",
   "1u 1v3.0 2u 7v3.0 3u 1v3.0 4u 6v3.0 1u 1v3.0 1u 8v3.0 6u 10v7.0 2u 3v3.0 12u",
   "58v1.1 4u 29v1.1 37u 2v1.1 1u 1v1.1 1u 1v12.0 2v1.1 1v12.0 1v1.1 1u 1v12.0 1v1.1",
   "6v12.0 4v1.1 1v12.0 7v1.1 1v12.0 3v1.1 1u 1v1.1 1u 1v1.1 2v12.0 2v1.1 1v12.0 13v1.1",
   "1v12.0 3v1.1 2u 5v1.1 1u 1v1.1 1u 6v1.1 1v15.0 1u 10v1.1 2u 2v1.1 2v6.1 32u",
   "72v2.0 1u 33v2.0 1v3.0 2v5.1 4u 27v2.0 4v6.0 6v2.0 1v3.0 1v2.0 1u 21v2.0 3v3.0",
   "7v2.0 1v3.0 1v2.0 3v3.0 1u 15v3.0 1u 1v5.1 1v3.0 2v4.1 3v5.1 4v5.2 2v6.0 37u 34v3.0",
   "1v5.1 5v3.0 1v5.1 2v3.0 1v5.1 7v3.0 3v5.1 4v3.0 6v5.1 26v3.0 64v5.1 4v5.2 2v5.1 38v1.1",
   "1u 1v6.1 5u 1v6.1 2u 39v1.1 2v3.2 2v4.1 1v1.1 1v4.1 3v6.1 90v1.1 5v5.2 68v1.1 5v5.2",
   "82v1.1 6v5.2 7v3.0 1v4.1 63v3.0 1v4.1 1v3.0 1u 4v3.0 2u 7v3.0 1u 1v3.0 1u 4v3.0",
   "2u 39v3.0 1v4.1 1v3.0 1u 4v3.0 2u 31v3.0 1v4.1 1v3.0 1u 4v3.0 2u 7v3.0 1u 1v3.0",
   "1u 4v3.0 2u 7v3.0 1v4.1 7v3.0 1u 23v3.0 1v4.1 31v3.0 1v4.1 1v3.0 1u 4v3.0 2u",
   "7v3.0 1v4.1 39v3.0 1v4.1 19v3.0 2u 2v6.0 2v4.1 28v3.0 3u 26v4.1 6u 85v3.0 1v8.0 2u",
   "6v8.0 2u 1v5.2 630v3.0 9v5.2 29v3.0 3u 81v3.0 8v7.0 7u 13v3.2 1v14.0 7v3.2 1v14.0",
   "9u 1v14.0 23v3.2 9u 20v3.2 12u 13v3.2 1u 3v3.2 1u 2v3.2 12u 93v3.0 1v4.0 2u",
   "10v3.0 6u 10v4.0 6u 15v3.0 1v14.0 10v3.0 6u 88v3.0 1v11.0 7u 42v3.0 1v5.1 5u",
   "70v5.2 10u 29v4.0 2v7.0 1u 12v4.0 4u 12v4.0 4u 1v4.0 3u 42v4.0 2u 5v4.0 11u",
   "42v4.1 2v5.2 4u 26v4.1 6u 10v4.1 1v5.2 3u 2v4.1 32v4.0 28v4.1 2u 2v4.1 63v5.2 1u",
   "29v5.2 2u 11v5.2 6u 10v5.2 6u 14v5.2 2u 15v7.0 2v13.0 14v14.0 49u 76v5.0 1v14.0",
   "1u 2v16.0 45v5.0 2v14.0 1v16.0 43v5.1 3v6.1 12v5.1 6v6.1 52v6.0 8u 4v6.0 56v5.1 3u",
   "15v5.1 3u 51v5.1 9v9.0 2v16.0 5u 43v11.0 2u 3v11.0 8v6.1 8u 35v5.2 4v6.1 1v10.0",
   "2v7.0 1v12.0 5u 108v4.0 88v4.1 7v5.0 28v5.1 15v7.0 4v10.0 1v14.0 1v9.0 1v6.0 1v5.2",
   "2v5.0 155v1.1 1v2.0 4v5.1 90v1.1 6v5.1 22v1.1 2u 6v1.1 2u 38v1.1 2u 6v1.1 2u 8v1.1",
   "1u 1v1.1 1u 1v1.1 1u 1v1.1 1u 31v1.1 2u 53v1.1 1u 15v1.1 1u 14v1.1 2u 6v1.1",
   "1u 19v1.1 2u 3v1.1 1u 9v1.1 1u 47v1.1 1v3.0 23v1.1 1v3.2 6v3.0 5v3.2 2v4.0 2v4.1",
   "1v3.2 7v4.1 5v3.2 1v5.1 1u 4v6.3 7v1.1 1v3.2 2u 27v1.1 1u 5v4.1 8v6.0 3u 11v1.1",
   "1v2.0 1v2.1 3v3.0 2v3.2 4v4.1 3v5.2 1v6.0 1v6.2 3v7.0 1v8.0 1v10.0 1v14.0 15u 18v1.1",
   "2v3.0 7v3.2 1v4.1 4v5.0 1v5.1 15u 57v1.1 2v3.0 1v4.0 1v4.1 15v3.2 1v4.1 2v5.0 1v5.1",
   "3v5.2 48v1.1 1v3.0 1v5.0 4v5.1 1v5.2 2v8.0 4u 91v1.1 9v3.0 12v3.2 242v1.1 14v3.2",
   "1v1.1 1v3.0 121v1.1 1v3.0 1v3.2 30v3.0 52v3.2 2v4.0 11v4.1 12v5.0 1v5.2 11v6.0 7v7.0",
   "4v9.0 1v10.0 37v1.1 2v3.0 3v16.0 22u 11v1.1 21u 139v1.1 20v3.2 1v4.0 150v1.1 10v3.2",
   "80v1.1 8v3.0 8v3.2 20v1.1 2v4.0 2v3.2 1v4.1 1v3.0 86v1.1 2v3.0 12v3.2 2v4.1 10v3.2",
   "8v4.0 11v4.1 1v5.1 2v5.2 2v4.0 16v4.1 1v5.0 10v5.1 3v5.2 4v5.1 10v5.2 1v6.0 19v5.2",
   "1v6.0 1v5.2 4v6.0 24v5.2 1v7.0 4v1.1 1v6.0 4v1.1 2v6.0 28v1.1 1v6.0 35v1.1 1v6.0 1v1.1",
   "1v6.0 4v1.1 3v6.0 1v1.1 1v5.2 7v1.1 2v6.0 7v1.1 14v3.2 31v1.1 3v6.0 24v1.1 1v6.0",
   "14v1.1 1v6.0 7v4.1 4v5.0 1v6.1 1v5.1 1v6.1 2v6.0 28v3.2 4v5.1 16v3.2 256v3.0 512v3.2",
   "14v4.0 6v4.1 7v5.0 5v5.1 4v5.0 41v5.1 3v7.0 5v5.1 5v5.2 26v7.0 2u 32v7.0 1u 1v13.0",
   "34v7.0 3v11.0 12v7.0 1v12.0 8v7.0 1v10.0 25v11.0 4v8.0 15v11.0 1v12.0 47v4.1 1v14.0",
   "47v4.1 1v14.0 13v5.0 3v5.1 1v5.2 3v5.1 4v5.0 6v5.1 2v5.2 107v4.1 7v5.2 2v6.1 5u",
   "45v4.1 1u 1v6.1 5u 1v6.1 2u 54v4.1 2v6.1 7u 1v4.1 1v6.0 14u 1v6.0 23v4.1 9u",
   "7v4.1 1u 7v4.1 1u 7v4.1 1u 7v4.1 1u 7v4.1 1u 7v4.1 1u 7v4.1 1u 7v4.1 1u 32v5.1",
   "24v4.1 4v5.1 2v4.1 19v5.1 1v5.2 10v6.1 7v7.0 2v9.0 5v10.0 5v11.0 1v12.0 3v13.0 11v14.0",
   "34u 26v3.0 1u 89v3.0 12u 214v3.0 26u 12v3.0 4v15.1 56v1.1 3v3.0 3v3.2 1v3.0 1v1.1",
   "1u 84v1.1 2v3.2 2u 6v1.1 2v3.2 94v1.1 1v3.2 5u 40v1.1 1v5.1 1v10.0 1v11.0 1u",
   "94v1.1 1u 16v1.1 24v3.0 3v6.0 5v13.0 16v4.1 20v5.1 2v16.0 9u 1v15.1 16v3.2 29v1.1",
   "2v4.0 1u 36v1.1 12v5.2 1v4.0 15v3.2 28v1.1 2v4.0 1v4.1 50v1.1 15v3.2 12v1.1 4v4.0",
   "47v1.1 1v12.1 119v1.1 4v4.0 99v1.1 2v4.0 31v1.1 1v4.0 6582v3.0 10v13.0 64v4.0",
   "20902v1.1 22v4.1 8v5.1 8v5.2 1v6.1 9v8.0 21v10.0 5v11.0 13v13.0 3v14.0 1165v3.0 3u",
   "18v3.0 2v3.2 16v3.0 1v3.2 12v3.0 1v3.2 3v3.0 1v3.2 1v3.0 9u 48v5.2 300v5.1 20u",
   "32v5.1 2v6.0 18v5.1 8v6.1 28v5.1 6v7.0 1v8.0 1v6.1 88v5.2 8u 23v4.1 4v5.0 5v5.1 2v5.0",
   "107v5.1 2v6.0 1v8.0 2v6.0 2v6.1 12v7.0 10v6.0 1v6.1 3v7.0 1v9.0 1v11.0 2v7.0 6v8.0",
   "2v11.0 6v12.0 2v14.0 5v12.0 4v13.0 3v16.0 2u 2v14.0 1u 1v14.0 1u 5v14.0 3v16.0 21u",
   "3v14.0 2v13.0 1v7.0 2v6.1 1v6.0 5v5.1 44v4.1 1v13.0 3u 10v5.2 6u 56v5.0 8u 69v5.1",
   "1v9.0 8u 12v5.1 6u 28v5.2 2v8.0 2v11.0 84v5.1 11u 1v5.1 29v5.2 3u 78v5.2 1u",
   "11v5.2 4u 2v5.2 31v7.0 1u 55v5.1 9u 14v5.1 2u 10v5.1 2u 4v5.1 28v5.2 4v7.0 67v5.2",
   "24u 5v5.2 23v6.1 10u 6v6.0 2u 6v6.0 2u 6v6.0 9u 7v6.0 1u 7v6.0 1u 48v7.0 4v8.0",
   "2v7.0 2v12.0 4v13.0 4u 80v8.0 46v5.2 2u 10v5.2 6u 11172v2.0 12u 23v5.2 4u 49v5.2",
   "2052u 6702v1.1 2v6.1 59v3.2 3v5.2 2u 106v4.1 38u 7v1.1 12u 5v1.1 5u 1v3.0 25v1.1",
   "1u 5v1.1 1u 1v1.1 1u 2v1.1 1u 2v1.1 1u 108v1.1 16v6.0 1v14.0 16u 365v1.1 16v14.0",
   "64v1.1 2u 54v1.1 7u 1v14.0 32v3.1 12v1.1 1v3.2 1v4.0 2v14.0 16v3.2 10v4.1 6u 4v1.1",
   "3v5.1 7v7.0 2v8.0 21v1.1 2v3.2 2v4.0 10v1.1 1u 19v1.1 1u 4v1.1 4u 3v1.1 1v3.2 1v1.1",
   "1u 135v1.1 2u 1v1.1 1u 94v1.1 2v3.2 94v1.1 3u 6v1.1 2u 6v1.1 2u 6v1.1 2u 3v1.1",
   "3u 7v1.1 1u 7v1.1 10u 3v3.0 1v2.1 3v1.1 12v4.0 1u 26v4.0 1u 19v4.0 1u 2v4.0 1u",
   "15v4.0 2u 14v4.0 34u 123v4.0 5u 3v4.0 4u 45v4.0 3u 9v4.0 75v4.1 2v7.0 2v9.0 1u",
   "12v5.1 1v13.0 3u 1v7.0 47u 46v5.1 130u 29v5.1 3u 49v5.1 15u 28v7.0 4u 31v3.1",
   "1v7.0 4v3.1 9u 3v10.0 27v3.1 5u 43v7.0 5u 30v4.0 1u 1v4.0 36v4.1 4u 14v4.1 42u",
   "38v3.1 2v4.0 38v3.1 80v4.0 2u 10v4.0 6u 36v9.0 4u 36v9.0 4u 40v7.0 8u 52v7.0 11u",
   "1v7.0 11v14.0 1u 15v14.0 1u 7v14.0 1u 2v14.0 1u 11v14.0 1u 15v14.0 1u 7v14.0 1u",
   "2v14.0 3u 52v16.0 12u 311v7.0 9u 22v7.0 10u 8v7.0 24u 6v14.0 1u 42v14.0 1u",
   "9v14.0 69u 6v4.0 2u 1v4.0 1u 44v4.0 1u 2v4.0 3u 1v4.0 2u 1v4.0 22v5.2 1u 9v5.2",
   "63v7.0 8u 9v7.0 48u 19v8.0 1u 2v8.0 5u 5v8.0 26v5.0 2v5.2 3u 1v5.0 26v5.1 5u",
   "1v5.1 64u 56v6.1 4u 2v8.0 2v6.1 16v8.0 2u 46v8.0 4v4.1 1u 2v4.1 5u 8v4.1 1u",
   "3v4.1 1u 27v4.1 2v11.0 2u 3v4.1 4u 9v4.1 1v11.0 7u 9v4.1 7u 32v5.2 32v7.0 32u",
   "39v7.0 4u 12v7.0 9u 54v5.2 3u 29v5.2 2u 27v5.2 5u 8v5.2 18v7.0 7u 4v7.0 12u",
   "7v7.0 80u 73v5.2 55u 51v8.0 13u 51v8.0 7u 6v8.0 40v11.0 8u 10v11.0 6u 38v16.0",
   "3u 29v16.0 8u 2v16.0 208u 31v5.2 1u 42v13.0 1u 3v13.0 2u 2v13.0 16u 3v16.0 55u",
   "1v16.0 3v15.0 40v11.0 8u 42v11.0 22u 26v14.0 38u 28v13.0 20u 23v12.0 9u 78v6.0",
   "4u 30v6.0 6v14.0 9u 1v7.0 66v5.2 1v14.0 10u 1v11.0 2u 25v6.1 7u 10v6.1 6u 53v6.1",
   "1u 14v6.1 3v11.0 1v13.0 8u 39v7.0 9u 73v6.1 4v8.0 1v7.0 2v13.0 10v6.1 1v7.0 5v8.0",
   "1u 20v7.0 11u 18v7.0 1u 43v7.0 1v9.0 3v15.0 62u 7v8.0 1u 1v8.0 1u 4v8.0 1u",
   "15v8.0 1u 11v8.0 6u 59v7.0 5u 10v7.0 6u 1v8.0 3v7.0 1u 8v7.0 2u 2v7.0 2u 22v7.0",
   "1u 7v7.0 1u 2v7.0 1u 5v7.0 1u 1v11.0 9v7.0 2u 2v7.0 2u 3v7.0 2u 1v8.0 6u 1v7.0",
   "5u 7v7.0 2u 7v7.0 3u 5v7.0 11u 10v16.0 1u 1v16.0 2u 1v16.0 1u 38v16.0 1u",
   "10v16.0 1u 1v16.0 2u 1v16.0 1u 4v16.0 1u 10v16.0 1u 2v16.0 8u 2v16.0 29u 90v9.0",
   "1v13.0 1v9.0 1u 1v9.0 1v11.0 1v12.0 2v13.0 30u 72v7.0 8u 10v7.0 166u 54v7.0 2u",
   "18v7.0 20v8.0 34u 69v7.0 11u 10v7.0 6u 13v9.0 19u 56v6.1 1v12.0 1v14.0 6u 10v6.1",
   "6u 20v16.0 28u 26v8.0 1v11.0 2u 15v8.0 4u 16v8.0 7v14.0 185u 60v11.0 100u 83v7.0",
   "12u 1v7.0 7v13.0 2u 1v13.0 2u 8v13.0 1u 2v13.0 1u 30v13.0 1u 2v13.0 2u 12v13.0",
   "9u 10v13.0 70u 8v12.0 2u 46v12.0 2u 11v12.0 27u 72v10.0 8u 52v10.0 2v12.0",
   "23v10.0 1v11.0 5v10.0 13u 16v14.0 57v7.0 7u 10v15.0 182u 34v16.0 14u 10v16.0 6u",
   "9v9.0 1u 45v9.0 1u 14v9.0 10u 29v9.0 3u 32v9.0 2u 22v9.0 1u 14v9.0 73u 7v10.0",
   "1u 2v10.0 1u 44v10.0 3u 1v10.0 1u 2v10.0 1u 9v10.0 8u 10v10.0 6u 6v11.0 1u",
   "2v11.0 1u 37v11.0 1u 2v11.0 1u 6v11.0 7u 10v11.0 310u 25v11.0 7u 17v15.0 1u",
   "41v15.0 3u 28v15.0 1v16.0 85u 1v13.0 15u 50v12.0 13u 1v12.0 879v5.0 42v7.0 1v8.0",
   "102u 99v5.0 12v7.0 1u 4v5.0 1v7.0 11u 196v8.0 2636u 99v14.0 13u 1071v5.2 1v15.0",
   "9v12.0 29v15.0 10u 3995v16.0 5u 583v8.0 6841u 58v16.0 1734u 569v6.0 7u 31v7.0 1u",
   "10v7.0 4u 2v7.0 79v14.0 1u 10v14.0 6u 30v7.0 2u 6v7.0 10u 70v7.0 10u 10v7.0 1u",
   "7v7.0 1u 21v7.0 5u 19v7.0 432u 58v16.0 198u 91v11.0 101u 69v6.1 6v12.0 4u 1v12.0",
   "47v6.1 9v12.0 7u 17v6.1 64u 1v9.0 1v10.0 2v12.0 1v13.0 11u 2v13.0 14u 6125v9.0",
   "5v11.0 6v12.0 8u 755v9.0 483v13.0 41u 1v16.0 9v13.0 8935u 4v14.0 1u 7v14.0 1u",
   "2v14.0 1u 2v6.0 285v10.0 4v14.0 15u 1v15.0 29u 3v12.0 2u 1v15.0 14u 4v12.0 8u",
   "396v10.0 2308u 107v7.0 5u 13v7.0 3u 9v7.0 7u 10v7.0 2u 8v7.0 3932u 250v16.0 6u",
   "436v16.0 76u 46v14.0 2u 23v14.0 9u 116v14.0 60u 246v3.1 10u 39v3.1 2u 1v5.1",
   "180v3.1 11v8.0 2v14.0 21u 70v4.1 122u 20v15.0 12u 20v11.0 12u 87v4.0 9u 18v5.0",
   "7v11.0 135u 85v3.1 1u 71v3.1 1u 2v3.1 2u 1v3.1 2u 2v3.1 2u 4v3.1 1u 12v3.1 1u",
   "1v3.1 1u 4v3.1 1v4.0 2v3.1 1u 65v3.1 1u 4v3.1 2u 8v3.1 1u 7v3.1 1u 28v3.1 1u",
   "4v3.1 1u 5v3.1 1u 1v3.1 3u 7v3.1 1u 338v3.1 2v4.1 2u 290v3.1 2v5.0 2u 50v3.1",
   "652v8.0 15u 5v8.0 1u 15v8.0 1104u 31v14.0 6u 6v15.0 213u 7v9.0 1u 17v9.0 2u",
   "7v9.0 1u 2v9.0 1u 5v9.0 5u 62v15.0 33u 1v15.0 112u 45v12.0 3u 14v12.0 2u",
   "10v12.0 4u 2v12.0 320u 31v14.0 17u 58v12.0 5u 1v12.0 464u 42v15.0 214u 43v16.0",
   "4u 1v16.0 480u 7v14.0 1u 4v14.0 1u 2v14.0 1u 15v14.0 1u 197v7.0 2u 16v7.0 41u",
   "75v9.0 1v12.0 4u 10v9.0 4u 2v9.0 785u 68v11.0 76u 61v12.0 194u 4v6.1 1u 27v6.1",
   "1u 2v6.1 1u 1v6.1 2u 1v6.1 1u 10v6.1 1u 4v6.1 1u 1v6.1 1u 1v6.1 6u 1v6.1 4u",
   "1v6.1 1u 1v6.1 1u 1v6.1 1u 3v6.1 1u 2v6.1 1u 1v6.1 2u 1v6.1 1u 1v6.1 1u 1v6.1",
   "1u 1v6.1 1u 1v6.1 1u 2v6.1 1u 1v6.1 2u 4v6.1 1u 7v6.1 1u 4v6.1 1u 4v6.1 1u",
   "1v6.1 1u 10v6.1 1u 17v6.1 5u 3v6.1 1u 5v6.1 1u 17v6.1 52u 2v6.1 270u 44v5.1 4u",
   "100v5.1 12u 15v6.0 2u 14v6.0 1v7.0 1u 15v6.0 1u 15v6.0 22v7.0 10u 11v5.2 2v7.0",
   "3v13.0 31v5.2 1v11.0 1v6.0 1v5.2 11v6.0 1v5.2 1v6.0 1v5.2 2v6.0 1v5.2 3v6.0 1v5.2",
   "3v6.0 5v5.2 8v6.0 1v5.2 7v6.0 1v5.2 10v6.0 2v6.1 1v12.0 3v13.0 9v6.0 1v5.2 1v6.0 2v5.2",
   "2v6.0 1v5.2 10v6.0 4v5.2 2v6.0 1v5.2 10v6.0 18v9.0 1v13.0 56u 26v6.0 1v5.2 2v6.0 13u",
   "34v5.2 9v6.0 1v9.0 4u 9v5.2 7u 2v6.0 14u 6v10.0 154u 33v6.0 12v7.0 3v8.0 6v6.0",
   "1v7.0 70v6.0 1v7.0 2v8.0 20v6.0 12v7.0 37v6.0 1v7.0 5v6.0 4v7.0 5v8.0 12v7.0 17v6.0",
   "7v7.0 8v8.0 63v6.0 1v7.0 1v6.0 1v7.0 182v6.0 1v7.0 4v6.0 2v7.0 1v8.0 62v6.0 2v7.0",
   "4v6.1 7v7.0 5v8.0 24v6.0 18v7.0 1v9.0 41v7.0 1v9.0 86v7.0 5v6.0 1v6.1 16v6.0 1v6.1",
   "3v6.0 1v6.1 1v6.0 1v6.1 1v6.0 1v6.1 1v6.0 1v6.1 3v6.0 1v6.1 6v6.0 2v6.1 4v6.0 1v6.1",
   "1v6.0 2v6.1 4v6.0 1v6.1 12v6.0 2v7.0 2v8.0 11v6.0 48v7.0 70v6.0 10v7.0 1v8.0 2v9.0",
   "2v10.0 1v12.0 2v13.0 4u 1v15.0 3v14.0 13v7.0 3u 4v7.0 3v9.0 2v10.0 1v11.0 1v12.0",
   "2v13.0 3u 116v6.0 3v15.0 4u 5v15.0 85v7.0 4v11.0 1v15.0 6u 12v12.0 4u 1v14.0 15u",
   "12v7.0 4u 56v7.0 8u 10v7.0 6u 40v7.0 8u 30v7.0 2u 2v13.0 10v16.0 4u 2v16.0 62u",
   "12v10.0 1v13.0 3v12.0 9v8.0 6v9.0 1v10.0 8v9.0 8v10.0 1v9.0 2v10.0 12v9.0 1v12.0",
   "12v9.0 1v10.0 3v11.0 15v9.0 13v10.0 5v11.0 1v12.0 1v13.0 4v11.0 2v13.0 1v14.0 1v11.0",
   "1v12.0 4v11.0 5v8.0 13v9.0 6v10.0 11v11.0 2v13.0 6v12.0 3v13.0 2v12.0 10v11.0 6v12.0",
   "1v8.0 2v11.0 8v12.0 1v13.0 1v14.0 3v12.0 23v10.0 25v11.0 84v12.0 12u 14v11.0 2u",
   "4v12.0 1v13.0 3v15.0 3v12.0 2v14.0 3u 3v12.0 4v13.0 2v15.0 1v16.0 5u 1v16.0 6v12.0",
   "19v13.0 4v14.0 3v15.0 7v13.0 4v14.0 3v15.0 1v16.0 1v15.0 3v13.0 3v14.0 1v16.0 7u",
   "2v15.0 7v13.0 3v14.0 2v15.0 1v16.0 2u 1v16.0 8v14.0 1v15.0 1v16.0 6u 7v14.0 2v15.0",
   "7u 147v13.0 1u 55v13.0 37v16.0 10v13.0 1028u 2v2.0 42711v3.1 7v13.0 2v14.0 32u",
   "4149v5.2 4v14.0 1v15.0 6u 222v6.0 2u 5762v8.0 14u 7473v10.0 15u 622v15.1 2466u",
   "542v3.1 1504u 2v2.0 4939v13.0 5u 4192v15.0 56398u 2v2.0 65534u 2v2.0 65534u 2v2.0",
   "65534u 2v2.0 65534u 2v2.0 65534u 2v2.0 65534u 2v2.0 65534u 2v2.0 65534u 2v2.0",
   "65534u 2v2.0 65534u 2v2.0 1u 1v3.1 30u 96v3.1 128u 240v4.0 65038u 131074v2.0"]

/-- The versions, from the first on. -/
def versions : List String :=
  ["1.1", "2.0", "2.1", "3.0", "3.1", "3.2", "4.0", "4.1", "5.0", "5.1", "5.2", "6.0", "6.1",
   "6.2", "6.3", "7.0", "8.0", "9.0", "10.0", "11.0", "12.0", "12.1", "13.0", "14.0", "15.0",
   "15.1", "16.0"]

/-- The two names of the value that stands for a version, such as 3.0 and V3_0. -/
def names (version : String) : List String :=
  [version, "V" ++ version.map fun c => if c = '.' then '_' else c]

/-- The characters of a version: those that came in with it or before it. -/
def upTo (version : String) : CharSet :=
  let codes := (versions.takeWhile (· != version) ++ [version]).map ("v" ++ ·)
  CharSet.ofRuns codes.contains runs

end ContainerRoster.Unicode.Age
